import GlassBox.Domain.Action

/-!
# The governed action catalogue

`domain/catalogue.py`, `domain/tool_registry.py` and `domain/prompt_injection.py`.  A definition
fixes the consequence class of an action, derives its exposure and lists the parameters it allows.
A parameter mapping is a list of entries with distinct keys.
-/

namespace GlassBox

/-- The allowed shapes of a parameter value. -/
inductive ParameterType
  | string
  | number
  | integer
  | boolean
  deriving DecidableEq

namespace ParameterType

def value : ParameterType → String
  | string => "string"
  | number => "number"
  | integer => "integer"
  | boolean => "boolean"

/-- Whether a value has the declared shape; a `bool` is not a number. -/
def accepts : ParameterType → Value → Bool
  | type, .bool _ => type == boolean
  | string, .str _ => true
  | number, .int _ => true
  | number, .float _ => true
  | integer, .int _ => true
  | _, _ => false

end ParameterType

structure ParameterField where
  name : Identifier
  type : ParameterType
  required : Bool := false
  maxLength : Option Nat := none
  /-- Only text has a maximal length. -/
  length_of_text : maxLength.isSome → type = .string

/-- How `parameters` breaks this field, if it does. -/
def ParameterField.violation [Runtime] (field : ParameterField)
    (parameters : List (String × Value)) : Option String :=
  let name := Runtime.reprStr field.name.val
  match parameters.lookup field.name.val with
  | none => if field.required then some ("required parameter " ++ name ++ " is missing") else none
  | some value =>
    if field.type.accepts value = false then
      some ("parameter " ++ name ++ " must be of type " ++ field.type.value)
    else
      match field.maxLength, value with
      | some bound, .str text =>
        if bound < text.length then
          some ("parameter " ++ name ++ " exceeds max_length=" ++ toString bound)
        else none
      | _, _ => none

/-- How exposure is computed from parameters. -/
structure ExposureRule where
  blastRadius : BlastRadius := .single
  monetaryField : Option Identifier := none
  recordsField : Option Identifier := none

namespace ExposureRule

/-- `_numeric_field`: a number, or an unknown magnitude. -/
def numericField (parameters : List (String × Value)) (field : Option Identifier) :
    Option PyFloat :=
  match field.bind fun name => parameters.lookup name.val with
  | some (.int value) => some (.finite value)
  | some (.float value) => some value
  | _ => none

/-- The integer a field holds. -/
def integerField (parameters : List (String × Value)) (field : Option Identifier) : Option Int :=
  match field.bind fun name => parameters.lookup name.val with
  | some (.int value) => some value
  | _ => none

/-- What the parameters put at stake. -/
def extract [Runtime] (rule : ExposureRule) (parameters : List (String × Value)) :
    Except PyError Exposure :=
  Exposure.make rule.blastRadius (numericField parameters rule.monetaryField)
    (integerField parameters rule.recordsField)

end ExposureRule

/-- An action as the catalogue governs it. -/
structure ActionDefinition where
  action : Identifier
  consequence : ConsequenceClass
  exposureRule : ExposureRule := {}
  requiredAttestations : List Identifier := []
  parameterSchema : List ParameterField := []
  untrustedTextFields : List Identifier := []
  sensitiveParameterFields : List Identifier := []
  attestations_nodup : requiredAttestations.Nodup
  schema_nodup : (parameterSchema.map ParameterField.name).Nodup

/-- Every way `parameters` violates the schema; an empty schema is not enforced. -/
def ActionDefinition.validateParameters [Runtime] (definition : ActionDefinition)
    (parameters : List (String × Value)) : List String :=
  if definition.parameterSchema.isEmpty then []
  else
    let allowed := definition.parameterSchema.map fun field => field.name.val
    ((parameters.filter fun entry => entry.1 ∉ allowed).map fun entry =>
      "parameter " ++ Runtime.reprStr entry.1 ++ " is not in this action's schema") ++
      definition.parameterSchema.filterMap fun field => field.violation parameters

/-- The governed shape of one tool, pinned to its exact definition. -/
structure ToolDefinition where
  toolName : Identifier
  definitionSha256 : Sha256Hex
  action : ActionDefinition

def injectionPatterns : List String :=
  ["(?i)\\b(ignore|disregard)\\s+(all\\s+|any\\s+)?(previous|prior|above|earlier)\\s+" ++
      "instructions\\b",
    "(?i)\\bnew\\s+instructions\\s*:",
    "(?i)\\byou\\s+are\\s+now\\b.\x7b0,40\x7d\\b(dan|jailbreak(?:en)?|unrestricted|unfiltered)\\b",
    "(?i)\\bact\\s+as\\s+(if\\s+you\\s+are\\s+)?(an?\\s+)?(unfiltered|unrestricted|jailbroken)\\b",
    "(?i)\\b(reveal|print|repeat)\\s+(the\\s+)?(system\\s+prompt|your\\s+instructions)\\b",
    "(?i)</?\\s*(system|assistant|user)\\s*>",
    "(?i)\\bthis\\s+is\\s+a\\s+(test|simulation)\\s*[:,-].\x7b0,40\x7d\\bignore\\b"]

mutual

/-- `_flatten_text_values`: every string inside mappings and sequences. -/
def flattenTextValues : Value → List String
  | .str text => [text]
  | .mapping entries => flattenTextEntries entries
  | .list items => flattenTextItems items
  | .tuple items => flattenTextItems items
  | _ => []

/-- The strings of a sequence. -/
def flattenTextItems : List Value → List String
  | [] => []
  | item :: items => flattenTextValues item ++ flattenTextItems items

/-- The strings of keys and values. -/
def flattenTextEntries : List (Value × Value) → List String
  | [] => []
  | (key, item) :: entries =>
    flattenTextValues key ++ flattenTextValues item ++ flattenTextEntries entries

end

/-- `scan(field, text).flagged`. -/
def scanFlagged [Runtime] (text : Value) : Bool :=
  injectionPatterns.any fun pattern =>
    (flattenTextValues text).any fun fragment => Runtime.reSearch pattern fragment

/-- `_scan_untrusted_text_fields`: the fields that matched an injection pattern. -/
def scanUntrustedTextFields [Runtime] (definition : ActionDefinition)
    (parameters : List (String × Value)) : List Identifier :=
  definition.untrustedTextFields.filter fun field =>
    match parameters.lookup field.val with
    | none | some .none => false
    | some value => scanFlagged value

end GlassBox
