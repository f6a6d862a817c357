import Rustflow.Collect.Enrichment
import Rustflow.Common.TemplateCache

/-!
# Enrichment arguments

`parse_enrich_arg` of `enrich/config.rs` of the collector: where a table comes from, how it is read
and reloaded, and what is mapped from it. Durations are in nanoseconds, and paths as they are
written.
-/

namespace Rustflow.Collect
open Text

inductive CsvLookup where
  | prefixLookup
  /-- One key type per key column. -/
  | exact (keyTypes : List KeyType)
  deriving DecidableEq

inductive SourceFormat where
  | csv (keyColumns : List (List Char)) (lookup : CsvLookup)
  | mmdb
  deriving DecidableEq

inductive Origin where
  | file (path : List Char)
  | command (program : List Char) (timeout : Duration)
  deriving DecidableEq

def Origin.path : Origin → List Char
  | .file path => path
  | .command program _ => program

inductive ReloadPolicy where
  | never
  | interval (every : Duration)
  | watch (debounce : Duration)
  deriving DecidableEq

/-- `std::path::absolute` of the path. -/
def Origin.absolute {E : Type} (absolute : List Char → Except E (List Char)) :
    Origin → Except E Origin
  | .file path => (absolute path).map .file
  | .command program timeout => (absolute program).map (.command · timeout)

structure SourceConfig where
  origin : Origin
  format : SourceFormat
  reload : ReloadPolicy
  columns : List (List Char)
  deriving DecidableEq

def DEFAULT_DEBOUNCE : Duration := 250000000
def MIN_INTERVAL : Duration := 10000000000
def DEFAULT_TIMEOUT : Duration := 30000000000

/-- `E` is what the file system says when it fails. -/
inductive EnrichError (E : Type) where
  | config (error : ConfigError)
  | io (error : E)

section
variable {E A : Type}

def configError (message : String) : Except (EnrichError E) A := .error (.config ⟨message⟩)

def reject (bad : Bool) (message : String) : Except (EnrichError E) Unit :=
  if bad then configError message else .ok ()

/-- What a command cannot be used with. -/
def Origin.check (format : SourceFormat) (reload : ReloadPolicy) :
    Origin → Except (EnrichError E) Unit
  | .file _ => .ok ()
  | .command _ timeout => do
    reject (format = .mmdb) "A command supports only CSV"
    reject (reload matches .watch _) "A command cannot be watched; use a reload interval"
    reject (timeout = 0) "Command timeout must not be zero"

def SourceFormat.check : SourceFormat → Except (EnrichError E) Unit
  | .csv keyColumns _ =>
    reject (keyColumns = [] || keyColumns.any fun column => trim column = []) "Empty CSV key column"
  | .mmdb => .ok ()

def SourceConfig.new (absolute : List Char → Except E (List Char)) (origin : Origin)
    (format : SourceFormat) (columns : List (List Char)) (reload : ReloadPolicy) :
    Except (EnrichError E) SourceConfig := do
  reject (origin.path = []) "Empty source"
  origin.check format reload
  reject (columns = []) "At least one source column is required"
  reject ((columns.any fun column => trim column = []) || !columns.Nodup)
    "Source columns must be nonempty and unique"
  format.check
  let origin ← (origin.absolute absolute).mapError .io
  return { origin, format, reload, columns }

/-! ### Parameters -/

def PARAMETERS : List String :=
  ["type", "format", "source", "command", "timeout", "key_column", "fields", "reload"]

inductive Kind where
  | prefixLookup | exact
  deriving DecidableEq

def Kind.parse (value : List Char) : Except (EnrichError E) Kind :=
  if value = "prefix_lookup".toList then .ok .prefixLookup
  else if value = "exact".toList then .ok .exact
  else configError ("Unknown type '" ++ String.ofList value ++ "'")

inductive Format where
  | csv | mmdb

/-- `eq_ignore_ascii_case`. -/
def eqIgnoreAsciiCase (a b : List Char) : Bool := a.map Char.toLower = b.map Char.toLower

def Format.parse (value : List Char) : Except (EnrichError E) Format :=
  if eqIgnoreAsciiCase value "csv".toList then .ok .csv
  else if eqIgnoreAsciiCase value "mmdb".toList then .ok .mmdb
  else configError ("Unknown format '" ++ String.ofList value ++ "'")

/-- `Path::extension`: what follows the last dot of the last component, unless it is the first of
it. -/
def extension (path : List Char) : Option (List Char) := do
  let fileName ← ((path.splitOn '/').filter fun component => component ≠ [] ∧
      component ≠ ['.']).getLast?
  if fileName = ['.', '.'] then none
  else
    let (stem, extension) ← rsplitOnce '.' fileName
    if stem = [] then none else some extension

abbrev Params : Type := List (List Char × List Char)

def parseParams : List (List Char) → Params → Except (EnrichError E) Params
  | [], params => .ok params
  | part :: parts, params => do
    let some (key, value) :=
      splitOnce '=' part | configError ("Expected key=value: '" ++ String.ofList part ++ "'")
    let (key, value) := (trim key, trim value)
    reject (value = []) ("Empty '" ++ String.ofList key ++ "' parameter")
    reject (key ∉ PARAMETERS.map String.toList) ("Unknown parameter '" ++ String.ofList key ++ "'")
    reject (params.lookup key).isSome ("Duplicate parameter '" ++ String.ofList key ++ "'")
    parseParams parts (params ++ [(key, value)])

def Params.get (params : Params) (key : String) : Option (List Char) := params.lookup key.toList

def Params.required (params : Params) (key : String) : Except (EnrichError E) (List Char) :=
  match params.get key with
  | some value => .ok value
  | none => configError ("Missing '" ++ key ++ "' parameter")

def Params.forbid (params : Params) (keys : List String) (context : String) :
    Except (EnrichError E) Unit :=
  match keys.find? fun key => (params.get key).isSome with
  | some key => configError ("'" ++ key ++ "' is not valid for " ++ context)
  | none => .ok ()

section
variable (parseDuration : List Char → Except String Duration)

def ReloadPolicy.parse (value : List Char) : Except (EnrichError E) ReloadPolicy :=
  if value = "never".toList then .ok .never
  else if value = "watch".toList then .ok (.watch DEFAULT_DEBOUNCE)
  else
    match parseDuration value with
    | .error e => configError ("Invalid reload duration '" ++ String.ofList value ++ "': " ++ e)
    | .ok every =>
      if every < MIN_INTERVAL then configError ("Reload interval '" ++ String.ofList value ++
        "' must be at least 10s")
      else .ok (.interval every)

def parseReload (params : Params) : Except (EnrichError E) ReloadPolicy :=
  match params.get "reload" with
  | some value => ReloadPolicy.parse parseDuration value
  | none => .ok .never

def parseOrigin (params : Params) : Except (EnrichError E) Origin :=
  match params.get "source", params.get "command" with
  | some path, none => do
    params.forbid ["timeout"] "a file source"
    return .file path
  | none, some program =>
    match params.get "timeout" with
    | none => .ok (.command program DEFAULT_TIMEOUT)
    | some value =>
      match parseDuration value with
      | .error e => configError ("Invalid timeout '" ++ String.ofList value ++ "': " ++ e)
      | .ok timeout => .ok (.command program timeout)
  | some _, some _ => configError "'source' and 'command' are mutually exclusive"
  | none, none => configError "Missing 'source' or 'command' parameter"

def parseFormat (params : Params) (origin : Origin) : Except (EnrichError E) Format :=
  match params.get "format", origin with
  | some format, _ => Format.parse format
  | none, .file path =>
    match extension path with
    | some extension => Format.parse extension
    | none => configError "Specify format=csv or format=mmdb when source has no extension"
  -- An executable's extension says nothing about what it prints.
  | none, .command .. => .ok .csv

def sourceFormat (params : Params) (format : Format) (kind : Kind) (keyTypes : List KeyType) :
    Except (EnrichError E) SourceFormat :=
  match format, kind with
  | .csv, kind => do
    let keyColumns := ((← params.required "key_column").splitOn '+').map trim
    reject (keyColumns.length ≠ keyTypes.length)
      ("'key_column' lists " ++ toString keyColumns.length ++ " columns for " ++
        toString keyTypes.length ++ " lookup keys")
    return .csv keyColumns (match kind with
      | .prefixLookup => .prefixLookup
      | .exact => .exact keyTypes)
  | .mmdb, .prefixLookup => do
    params.forbid ["key_column"] "MMDB"
    return .mmdb
  | .mmdb, .exact => configError "MMDB supports only prefix_lookup"

variable (absolute : List Char → Except E (List Char))

/-- The source, and its columns with what is mapped from them. -/
def parseEnrichArg (arg : List Char) :
    Except (EnrichError E) (SourceConfig × EnrichmentConfig) := do
  let params ← parseParams (arg.splitOn ',') []
  let kind ← Kind.parse (← params.required "type")
  let origin ← parseOrigin parseDuration params
  let format ← parseFormat params origin
  let config ← (parseEnrichFields (← params.required "fields")).mapError .config
  let keyTypes := (config.mappings.head?.map FieldMapping.keys).getD [] |>.map LookupKey.keyType
  reject (kind = .prefixLookup && keyTypes ≠ [.ip])
    "prefix_lookup takes a single address field as key"
  let format ← sourceFormat params format kind keyTypes
  let reload ← parseReload parseDuration params
  let source ← SourceConfig.new absolute origin format config.columns reload
  return (source, config)

variable {parseDuration absolute}

theorem SourceConfig.new_columns {origin : Origin} {format : SourceFormat}
    {columns : List (List Char)} {reload : ReloadPolicy} {source : SourceConfig}
    (made : SourceConfig.new absolute origin format columns reload = .ok source) :
    source.columns = columns := by
  unfold SourceConfig.new at made
  iterate 6 obtain ⟨_, _, made⟩ := bind_ok made
  cases made
  rfl

theorem parseEnrichArg_columns {arg : List Char} {source : SourceConfig} {config : EnrichmentConfig}
    (parsed : parseEnrichArg parseDuration absolute arg = .ok (source, config)) :
    source.columns = config.columns := by
  unfold parseEnrichArg at parsed
  iterate 10 obtain ⟨_, _, parsed⟩ := bind_ok parsed
  obtain ⟨source, made, parsed⟩ := bind_ok parsed
  cases parsed
  exact SourceConfig.new_columns made

end

end

end Rustflow.Collect
