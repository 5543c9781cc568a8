import RecordSchema.ErrorClass
import RecordSchema.Library.Module
import RecordSchema.Schema.Build
import RecordSchema.Settings.Draft

/-! # The bundled library

The modules that come with the program: the bundled record, the fixed values, and the classes and
functions that records are described, mapped and written with. None of these classes has tags.
-/
namespace RecordSchema.Library

def programVersion : String := "0.1.0"

/-! ## Making members -/

def plainClass (module name : String) : String × Object := (name, .ofClass ⟨module, name⟩ [])

def plainClasses (module names : String) : Named Object :=
  (Text.words names).map (plainClass module)

def textValue (name text : String) : String × Object := (name, .value (.text text))

def functionOf (module name : String) : String × Object :=
  (name, .thing "function" ("<function " ++ name ++ ">")
    [textValue "__name__" name, textValue "__qualname__" name, textValue "__module__" module])

def functionsOf (module names : String) : Named Object := (Text.words names).map (functionOf module)

/-- A record class whose fields have a type and perhaps a default, and what else it comes with. -/
def record (name : ClassName) (frozen : Bool) (fields : List (String × TypeExpr × FieldSpec))
    (more : Named Value) : RecordClass :=
  let ds := fields.map fun f => Declaration.mk f.1 f.2.1 (some f.2.2)
  ⟨writtenLayer name frozen ds (more.map fun a => (a.1, .value a.2)), [],
    ⟨name.module, TypeExpr.known, []⟩⟩

/-- Functions that belong to a class. -/
def functionsIn (className names : String) : Named Value :=
  (Text.words names).map fun n => (n, Builtin.functionOf className n)

def property (name : String) : String × Value := (name, .thing "property" "<property object>")

def bare (name : String) (type : TypeExpr) : String × TypeExpr × FieldSpec := (name, type, {})

def enumeration (c : ClassName) (isText : Bool) (labels : List Label) : String × Object :=
  (c.name, .enumeration ⟨c, isText, labels⟩)

/-! ## What other modules lend -/

def featureNote : String × Object := ("annotations", .thing "_Feature" "_Feature()" [])

def specialForm (name : String) : String × Object :=
  (name, .thing "_SpecialForm" ("typing." ++ name) [textValue "_name" name])

def recordTools : Named Object := functionsOf "dataclasses" "dataclass field"

def enumClass : String × Object := ("Enum", .ofClass ⟨"enum", "Enum"⟩ [])

def palette : String × Object := ("chalk", .thing "ChalkFactory" "<ChalkFactory>" [])

def logTool : String × Object := functionOf "confql.config.logging" "get_logger"

def logMethods : Named Object :=
  (Text.words "trace debug info warning error critical log setLevel isEnabledFor").map fun n =>
    (n, .thing "method" ("<bound method " ++ n ++ ">") [])

/-- The log of a module. -/
def logOf (module : String) : String × Object :=
  ("logger", .thing "ConfqlLogger" ("<ConfqlLogger " ++ module ++ " (WARNING)>")
    ([textValue "name" module, ("level", .value (.int 0)), ("propagate", .value (.bool true)),
      ("disabled", .value (.bool false)), ("handlers", .value (.list [])),
      ("filters", .value (.list [])),
      ("parent", .thing "RootLogger" "<RootLogger root (WARNING)>" [])] ++ logMethods))

def unchecked : String × Object := ("TYPE_CHECKING", .value (.bool false))

/-! ## Classes -/

def noticeModule : String := "confql.core.diagnostics"

def noticeRecord : RecordClass :=
  record ⟨noticeModule, "Diagnostic"⟩ true
    [bare "level" (.cls ⟨noticeModule, "DiagnosticLevel"⟩), bare "message" .textType]
    (functionsIn "Diagnostic" "to_dict")

def noticeLog : RecordClass :=
  record ⟨noticeModule, "DiagnosticLog"⟩ false
    [("items", .generic ⟨"list", .list, false, none⟩ [.cls noticeRecord.name],
      { factory := some (.list []) })]
    (("from_iterable", Builtin.boundFunction "DiagnosticLog" "from_iterable") ::
      functionsIn "DiagnosticLog" "freeze add extend add_warning has_warning __iter__ __len__")

def levelColors : Named Value := [("color", .thing "ChalkBuilder" "<ChalkBuilder>")]

def noticeLevels : String × Object :=
  enumeration ⟨noticeModule, "DiagnosticLevel"⟩ false
    [⟨"INFO", Severity.info.name, levelColors⟩, ⟨"WARNING", Severity.warning.name, levelColors⟩,
      ⟨"ERROR", Severity.error.name, levelColors⟩]

def viewRecord : RecordClass :=
  record ⟨"confql.schema.views", "View"⟩ true [bare "head" .textType, bare "not_null" .textType] []

def viewObject (v : View) : Object :=
  .instance ⟨viewRecord, [("head", .text v.head), ("not_null", .text v.mark)]⟩

def viewEntries : Named Object :=
  [("View", .cls viewRecord), ("OUTPUT_VIEW", viewObject .defaultOutput),
    ("INPUT_VIEW", viewObject .defaultInput)]

def kindEntry : String × Object :=
  enumeration ⟨"confql.schema.kinds", "FieldKind"⟩ false
    (Kind.all.map fun k => ⟨k.name.toUpper, k.name, [("zero_value", k.zero)]⟩)

def typeEntry : String × Object :=
  enumeration ⟨"confql.schema.mapper", "GraphQLType"⟩ true
    (SchemaType.all.map fun t =>
      ⟨if t = .stringList then "STRING_LIST" else t.name.toUpper, t.name, []⟩)

/-- The description of a field says its kind with a name that its module does not know. -/
def descriptorRecord : RecordClass :=
  record ⟨"confql.schema.fields", "FieldDescriptor"⟩ true
    [bare "name" .textType, bare "tag" .textType, bare "kind" (.forward "FieldKind"),
      bare "value" (.builtin "object"), bare "native_type" .textType]
    [property "external_name"]

/-- A finished schema says its notices with a name that its module does not know. -/
def resultRecord : RecordClass :=
  record ⟨"confql.schema.builder", "SchemaResult"⟩ true
    [bare "text" .textType,
      ("diagnostics", .forward "tuple[Diagnostic, ...]", { default := some (.tuple []) })]
    (property "has_fallbacks" :: functionsIn "SchemaResult" "__str__")

def repeatedTuple (item : TypeExpr) : TypeExpr := .generic ⟨"tuple", .tuple, false, none⟩ [item, .rest]

/-- The settings keep their values in places of their own. -/
def settingsRecord : RecordClass :=
  let c : ClassName := ⟨"confql.config.model", "Settings"⟩
  let keys := Settings.Key.all.map (·.name) ++ ["config_files", "diagnostics"]
  let r := record c true
    (Settings.Key.all.map (fun k => bare k.name .textType) ++
      [bare "config_files" (repeatedTuple (.pipe [.cls ⟨"pathlib", "Path"⟩, .textType])),
        bare "diagnostics" (repeatedTuple (.cls noticeRecord.name))])
    (functionsIn c.name "views thaw to_toml_dict __getstate__ __setstate__")
  let places := keys.map fun k => (k, Attribute.value (Builtin.unattached c.name k .kept))
  let slots := ("__slots__", Attribute.value (.tuple (keys.map .text)))
  { r with own := { r.own with attributes := places ++ slots :: r.own.attributes } }

def errorName (c : ErrorClass) : ClassName := ⟨"confql.core.errors", c.name⟩

/-- A class of errors, below the classes of its lineage and those of all errors. -/
def errorEntry (c : ErrorClass) : String × Object :=
  let n := errorName c
  let above := (c.lineage.drop 1).map errorName ++
    (Builtin.lineage "Exception").map Builtin.classNamed
  (c.name, .group n above n.shown
    (if c.initializer?.isSome then [functionOf n.module "__init__"] else []))

def errorEntries : Named Object := ErrorClass.all.map errorEntry

/-! ## Modules -/

def bundledRecordEntries : Named Object :=
  [(TypeExpr.bundledClass.name, .cls bundledRecord)]

def widthEntry (name : String) : String × Object := (name, .typeExpr (TypeExpr.width name))

def widthEntries : Named Object := TypeExpr.widthNames.map widthEntry

def tagKeyEntry : String × Object := textValue "DEFAULT_TAG_KEY" defaultTagKey

def constantEntries : Named Object :=
  [textValue "CONFQL_VERSION" programVersion,
    textValue "DEFAULT_TOML_CONFIG_PACKAGE" "confql.config",
    textValue "DEFAULT_TOML_CONFIG_NAME" "confql-default.toml",
    textValue "PROJECT_TOML_CONFIG_NAME" Settings.ownFileName,
    textValue "PYPROJECT_TOML_NAME" Settings.sharedFileName,
    tagKeyEntry,
    textValue "DEFAULT_RECORD" Settings.defaultRecordPath,
    textValue "DEFAULT_OUTPUT_TYPE" View.defaultOutputName,
    textValue "DEFAULT_INPUT_TYPE" View.defaultInputName,
    ("GRAPHQL_INT_MIN", .value (.int leastInt)), ("GRAPHQL_INT_MAX", .value (.int greatestInt)),
    ("get_version", .thing "function" "<function version>" [textValue "__name__" "version"]),
    specialForm "Final"]

/-- What a bundled module tells about itself. -/
def bundledFacts (name package : String) : Named Object :=
  [textValue "__name__" name, textValue "__package__" package,
    ("__spec__", .thing "ModuleSpec" ("ModuleSpec(" ++ Text.quoted name ++ ")") []),
    ("__loader__", .thing "SourceFileLoader" "<SourceFileLoader>" [])]

def parentOf (module : String) : String := ((Text.cutLast? '.' module).map (·.1)).getD ""

def plainModules : List (String × Named Object) :=
  [("confql.constants", constantEntries),
    (TypeExpr.bundledClass.module, bundledRecordEntries ++
      [tagKeyEntry, ("timedelta", .value (.cls ⟨"datetime", "timedelta"⟩)), widthEntry "UInt16",
        widthEntry "UInt32", functionOf TypeExpr.bundledClass.module "_tag"] ++ recordTools),
    (TypeExpr.widthModule, widthEntries ++ [plainClass "typing" "NewType"]),
    (noticeModule, [("Diagnostic", .cls noticeRecord), ("DiagnosticLog", .cls noticeLog),
        noticeLevels, functionOf noticeModule "count_by_level", logOf noticeModule, logTool,
        palette, enumClass, unchecked, functionOf "typing" "cast"] ++ recordTools),
    ("confql.core.errors", errorEntries),
    ("confql.config.model", [("Settings", .cls settingsRecord)] ++
      functionsOf "confql.config.model" "load_settings resolve_record"),
    ("confql.schema.views", viewEntries ++ textValue "NON_NULL" "!" ::
      functionsOf "confql.schema.views" "output_view input_view"),
    ("confql.schema.kinds", kindEntry :: functionsOf "confql.schema.kinds"
      "type_display_name unwrap_optional unwrap_newtype classify_kind"),
    ("confql.schema.fields", ("FieldDescriptor", .cls descriptorRecord) ::
      functionsOf "confql.schema.fields" "walk_fields"),
    ("confql.schema.mapper", typeEntry :: functionsOf "confql.schema.mapper"
      "widen_int fits_graphql_int map_field"),
    ("confql.schema.builder", ("SchemaResult", .cls resultRecord) ::
      functionsOf "confql.schema.builder" "map_fields build_view build_schema schema"),
    ("confql.schema.naming", functionsOf "confql.schema.naming" "split_words to_lower_camel"),
    ("confql.schema.emitter", functionsOf "confql.schema.emitter" "render_field emit_block"),
    ("confql.config.io", []), ("confql.config.keys", []), ("confql.config.logging", [logTool]),
    ("confql.cli.main", []), ("confql.cli.options", []), ("confql.cli.console", []),
    ("confql.cli.errors", []), ("confql.cli.exit_codes", []), ("confql.cli.cmd_common", []),
    ("confql.cli.commands.config", []), ("confql.cli.commands.fields", []),
    ("confql.cli.commands.schema", []), ("confql.cli.commands.version", [])].map
    fun m => (m.1, bundledFacts m.1 (parentOf m.1) ++ featureNote :: m.2)

def moduleObject (m : String × Named Object) : Object :=
  .thing "module" ("<module " ++ Text.quoted m.1 ++ ">") m.2

/-- The modules of a package among the given ones, by their last names. -/
def modulesIn (package : String) (modules : List (String × Named Object)) : Named Object :=
  modules.filterMap fun m =>
    match Text.cutLast? '.' m.1 with
    | some (parent, name) => if parent = package then some (name, moduleObject m) else none
    | none => none

def packageOf (modules : List (String × Named Object)) (name : String) : String × Named Object :=
  (name, bundledFacts name name ++ modulesIn name modules)

def commandPackage : String × Named Object := packageOf plainModules "confql.cli.commands"

def innerPackages : List (String × Named Object) :=
  ["confql.config", "confql.core", "confql.schema", "confql.cli"].map
    (packageOf (commandPackage :: plainModules))

/-- The names that the outermost package offers. -/
def offeredNames : List String :=
  Text.words ("INPUT_VIEW OUTPUT_VIEW ConfigError ConfqlError Diagnostic DiagnosticLevel" ++
    " FieldDescriptor FieldKind GlobalConfig GraphQLType MissingTagError RecordLoadError" ++
    " RecordTypeError SchemaBuildError SchemaResult Settings UnsupportedTypeError View" ++
    " build_schema build_view load_settings resolve_record schema to_lower_camel walk_fields")

/-- The outermost package holds what it offers, from whatever module it is, besides what lies in
the package. -/
def outerPackage : String × Named Object :=
  let offered := offeredNames.filterMap fun n =>
    (plainModules.findSome? fun m => m.2.lookup n).map fun o => (n, o)
  ("confql", bundledFacts "confql" "confql" ++ featureNote ::
    ("__all__", .value (.list (offeredNames.map .text))) :: offered ++
    modulesIn "confql" (plainModules ++ innerPackages))

def bundled : Library :=
  (outerPackage :: commandPackage :: innerPackages).map
      (fun p => { name := p.1, isPackage := true, members := p.2 }) ++
    plainModules.map (fun m => { name := m.1, members := m.2 })

end RecordSchema.Library
