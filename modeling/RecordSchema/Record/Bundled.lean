import RecordSchema.Record.Class
import RecordSchema.TypeExpr.Display

/-! # The bundled record

The settings of a proxy daemon. It is the record that a schema is built from when no other one is
named.
-/
namespace RecordSchema

def defaultTagKey : String := "mapstructure"

/-- A field whose tag is its own name. -/
def taggedField (name : String) (type : TypeExpr) (default : Value) : Declaration :=
  ⟨name, type, some { metadata := [(defaultTagKey, .text name)], default := some default }⟩

def textsType : TypeExpr := .generic ⟨"tuple", .tuple, false, none⟩ [.textType, .rest]

def texts (items : List String) : Value := .tuple (items.map .text)

def bundledFields : List Declaration :=
  [taggedField "tproxy_port" (.width "UInt16") (.int 12345),
    taggedField "tproxy_port_protect" .boolType (.bool true),
    taggedField "pprof_port" (.width "UInt16") (.int 0),
    taggedField "so_mark_from_dae" (.width "UInt32") (.int 0),
    taggedField "log_level" .textType (.text "info"),
    taggedField "tcp_check_url" textsType
      (texts ["http://cp.cloudflare.com", "1.1.1.1", "2606:4700:4700::1111"]),
    taggedField "tcp_check_http_method" .textType (.text "HEAD"),
    taggedField "udp_check_dns" textsType
      (texts ["dns.google:53", "8.8.8.8", "2001:4860:4860::8888"]),
    taggedField "check_interval" .durationType (.duration 30000000),
    taggedField "check_tolerance" .durationType (.duration 0),
    taggedField "lan_interface" textsType (texts []),
    taggedField "wan_interface" textsType (texts []),
    taggedField "allow_insecure" .boolType (.bool false),
    taggedField "dial_mode" .textType (.text "domain"),
    taggedField "disable_waiting_network" .boolType (.bool false),
    taggedField "enable_local_tcp_fast_redirect" .boolType (.bool false),
    taggedField "auto_config_kernel_parameter" .boolType (.bool false),
    taggedField "auto_config_firewall_rule" .boolType (.bool false),
    taggedField "sniffing_timeout" .durationType (.duration 100000),
    taggedField "tls_implementation" .textType (.text "tls"),
    taggedField "utls_imitate" .textType (.text "chrome_auto"),
    taggedField "mptcp" .boolType (.bool false),
    taggedField "fallback_resolver" .textType (.text "8.8.8.8:53"),
    taggedField "bandwidth_max_tx" .textType (.text "0"),
    taggedField "bandwidth_max_rx" .textType (.text "0")]

/-- The type of a declaration as it is written. -/
def writtenType (d : Declaration) : Value :=
  match d.type.spelled with
  | .ok s => .text s
  | .error _ => .unwritten "str"

/-- What a record tells when its instances can be told apart by position and its types are kept as
they are written. -/
def writtenAttributes (ds : List Declaration) : Named Attribute :=
  [("__match_args__", .value (.tuple (ds.map fun d => .text d.name))),
    ("__annotations__", .value (.table (ds.map fun d => (d.name, writtenType d))))]

/-- A record that comes with the program. -/
def writtenLayer (name : ClassName) (frozen : Bool) (ds : List Declaration)
    (more : Named Attribute) : Layer :=
  let l := recordLayer name frozen ds
  { l with attributes := l.attributes ++ writtenAttributes ds ++ more }

def bundledRecord : RecordClass :=
  ⟨writtenLayer TypeExpr.bundledClass true bundledFields [], [],
    ⟨TypeExpr.bundledClass.module, TypeExpr.known, []⟩⟩

end RecordSchema
