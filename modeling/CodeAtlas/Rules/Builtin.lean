import CodeAtlas.Rules.Build

set_option autoImplicit false

/-! The rules in force where no other document is valid. -/

namespace CodeAtlas.Rules.Builtin

abbrev Field := String × Document

def ruleEntry (labelKey name : String) (conditions : List String) (label : String)
    (confidence : Float) (more : List Field) : Field :=
  (name, .object ([("conditions", .ofTexts conditions), (labelKey, .text label),
    ("confidence", .float confidence)] ++ more))

def purposeEntry (name : String) (conditions : List String) (label : String)
    (confidence : Float) : Field :=
  ruleEntry "purpose" name conditions label confidence []

def bundleEntry (name : String) (conditions : List String) (label : String)
    (confidence : Float) : Field :=
  ruleEntry "bundle" name conditions label confidence []

def purposePatterns : List Field :=
  [purposeEntry "reactComponent" ["func.type === 'react_component'"] "React component" 0.95,
   purposeEntry "reactHook" ["name.startsWith('use')", "func.type === 'function'"] "React hook" 0.9,
   purposeEntry "serviceLayer" ["pathParts.includes('services')"] "Service layer logic" 0.7,
   purposeEntry "componentLayer" ["pathParts.includes('components')"] "UI component logic" 0.7,
   purposeEntry "tauriCommand" ["name.matches('command')", "chunk.imports.includes('tauri')"]
    "Tauri backend command" 0.9,
   purposeEntry "textEditing"
    ["chunk.imports.includes('tiptap')", "chunk.imports.includes('prosemirror')"]
    "Rich text editing logic" 0.95,
   purposeEntry "fileManagement"
    ["pathParts.includes('services')", "name.matches('file|export|save')"]
    "File system service" 0.85,
   purposeEntry "uiComponent"
    ["pathParts.includes('components')", "name.matches('modal|button|menu|bar')"]
    "UI component logic" 0.85,
   purposeEntry "apiHandler" ["name.includes('api')", "name.includes('endpoint')"]
    "API handler" 0.85,
   purposeEntry "dataRetrieval" ["name.includes('get')", "name.includes('fetch')"]
    "Data retrieval" 0.8,
   purposeEntry "dataCreation" ["name.includes('create')", "name.includes('add')"]
    "Data creation" 0.8,
   purposeEntry "dataModification" ["name.includes('update')", "name.includes('edit')"]
    "Data modification" 0.8,
   purposeEntry "dataDeletion" ["name.includes('delete')", "name.includes('remove')"]
    "Data deletion" 0.8,
   purposeEntry "validation" ["name.includes('validate')", "name.includes('check')"]
    "Validation" 0.75,
   purposeEntry "dataProcessing" ["name.includes('parse')", "name.includes('format')"]
    "Data processing" 0.75]

def bundlePatterns : List Field :=
  [ruleEntry "bundle" "frontend" ["pathParts.includes('web')", "pathParts.includes('src')"]
    "frontend" 0.8
    [("subPatterns", .object
      [bundleEntry "uiComponents" ["pathParts.includes('components')"] "ui-components" 0.9])],
   bundleEntry "server"
    ["fileName.includes('server')", "fileName.includes('api')", "pathParts.includes('bin')"]
    "server" 0.85,
   bundleEntry "configuration"
    ["fileName.includes('config')", "fileName.includes('setup')", "fileName.endsWith('.json')",
     "fileName.endsWith('.sh')", "fileName.includes('package')"]
    "config" 0.9,
   bundleEntry "documentation"
    ["fileName.endsWith('.md')", "fileName.includes('doc')", "fileName.includes('readme')"]
    "docs" 0.95]

def bundleFallback : List Field :=
  [bundleEntry "webFallback" ["pathParts.includes('web')"] "frontend" 0.6,
   ("defaultFallback", .object
    [("bundles", .ofTexts ["server", "config"]), ("confidence", .float 0.4)])]

def cluster (name : String) (types : List String) (id : Int) : Field :=
  (name, .object [("types", .ofTexts types), ("clusterId", .int id)])

def clusters : List Field :=
  [cluster "businessLogic" ["business_logic", "algorithm"] 0,
   cluster "dataLayer" ["data_processing", "database"] 1,
   cluster "apiLayer" ["api_integration", "middleware", "routing"] 2,
   cluster "uiLayer" ["ui_component", "page_component", "layout_component", "hook"] 3,
   cluster "utilities" ["utility", "configuration", "function", "type_definition"] 4,
   cluster "testing" ["testing", "documentation", "monitoring"] 5,
   cluster "infrastructure" ["error_handling", "performance", "security"] 6,
   cluster "unknown" ["unknown"] 7]

def document : Document :=
  .object
    [("version", .text "1.0.0"),
     ("purposeHeuristics", .object
      [("patterns", .object purposePatterns),
       ("fallback", .object
        [("purpose", .text "Utility function"), ("confidence", .float 0.5)])]),
     ("bundleHeuristics", .object
      [("patterns", .object bundlePatterns), ("fallback", .object bundleFallback)]),
     ("semanticTypeMapping", .object [("clusters", .object clusters)])]

end CodeAtlas.Rules.Builtin

namespace CodeAtlas.Rules

def bare : RuleSet :=
  { version := ""
    purposeRules := []
    fallbackPurpose := ""
    fallbackConfidence := 0
    bundleRules := []
    pathRule := none
    defaultLabels := []
    defaultConfidence := 0
    typeClusters := []
    document := .null
    source := "default"
    revision := 0 }

def builtin : RuleSet :=
  match build "default" Builtin.document with
  | .ok rules => rules
  | .error _ => bare

end CodeAtlas.Rules
