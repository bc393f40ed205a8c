import ConfigFanout.ClusterConfig.Wire

-- How the kind of sources is made known to a cluster.
namespace ConfigFanout.Definition

/-- A column of the table in which sources are listed. -/
def column (name path : String) : Json :=
  .object [("jsonPath", .string path), ("name", .string name), ("type", .string "string")]

/-- The form of a text, with a word on it and more. -/
def textSchema (description : String) (more : List (String × Json)) : Json :=
  Json.ofMembers <|
    [("description", .string description), ("type", .string "string")] ++ more

/-- The form of a spec. -/
def specSchema : Json :=
  let kindWords := ArtifactKind.every.map fun kind => Json.string kind.word
  .object
    [("properties", .object
      [("configType", textSchema
          "Which kind of object gets replicated into every target namespace."
          [("enum", .array kindWords)]),
       ("data", .object
          [("additionalProperties", .object [("type", .string "string")]),
           ("default", .object []), ("type", .string "object")]),
       ("namespaceList", textSchema
          "Comma separated namespace names, or `all` for every namespace in the cluster."
          [("default", .string "")]),
       ("type", textSchema "Secret type hint, only used when `configType` is `secrets`."
          [("nullable", .bool true)])]),
     ("required", writeTexts ["configType"]),
     ("type", .string "object")]

/-- The form of a status. -/
def statusSchema : Json :=
  let description := "Namespaces holding an artifact as of the last successful reconciliation."
  .object
    [("nullable", .bool true),
     ("properties", .object
      [("processedNamespace", .object
          [("default", .array []), ("description", .string description),
           ("items", .object [("type", .string "string")]), ("type", .string "array")])]),
     ("type", .string "object")]

/-- The form of a source. -/
def schema : Json :=
  let description := "Auto-generated derived type for ClusterConfigSpec via `CustomResource`"
  .object
    [("description", .string description),
     ("properties", .object [("spec", specSchema), ("status", statusSchema)]),
     ("required", writeTexts ["spec"]),
     ("title", .string ResourceKind.clusterConfig.name),
     ("type", .string "object")]

/-- The one version of the kind. -/
def version : Json :=
  .object
    [("additionalPrinterColumns", .array
      [column "Type" ".spec.configType", column "Namespaces" ".spec.namespaceList"]),
     ("name", .string apiVersion),
     ("schema", .object [("openAPIV3Schema", schema)]),
     ("served", .bool true),
     ("storage", .bool true),
     ("subresources", .object [("status", .object [])])]

/-- The names of the kind. -/
def names : Json :=
  .object
    [("categories", .array []),
     ("kind", .string ResourceKind.clusterConfig.name),
     ("plural", .string "clusterconfigs"),
     ("shortNames", writeTexts ["cc"]),
     ("singular", .string "clusterconfig")]

/-- The definition of the kind of sources. -/
def json : Json :=
  .object
    [("apiVersion", .string "apiextensions.k8s.io/v1"),
     ("kind", .string "CustomResourceDefinition"),
     ("metadata", .object [("name", .string ("clusterconfigs." ++ apiGroup))]),
     ("spec", .object
      [("group", .string apiGroup),
       ("names", names),
       ("scope", .string "Namespaced"),
       ("versions", .array [version])])]

end ConfigFanout.Definition
