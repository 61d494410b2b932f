import WireSchemas.Headers.Schema

/-!
# Listings of headers

A listing shows the schema that headers speak of, then the headers of the system, then those of
the application, the schema keys left out of both.  A part without headers has no heading.
-/

namespace WireSchemas.Headers

/-- The line of a header. -/
def entryLine (e : String × Option String) : String :=
  "  " ++ e.1 ++ " = " ++ e.2.getD "<null>"

/-- The lines of some headers under a heading. -/
def partLines (heading : String) (h : Headers) : List String :=
  if h.toList = [] then [] else heading :: h.toList.map entryLine

/-- The lines of a schema. -/
def schemaLines (info : SchemaInfo) : List String :=
  ["Schema",
    "  name:    " ++ (if info.NameMissing then "<missing>" else info.name),
    "  format:  " ++ info.format.name,
    "  content: " ++ info.format.contentType]

/-- The lines of a listing. -/
def listing (h : Headers) : List String :=
  schemaLines (.ofHeaders h)
    ++ partLines "System" h.systemInfo.withoutSchemaInfo
    ++ partLines "User" h.withoutSystemInfo.withoutSchemaInfo
    ++ (if h.contains legacyMetadataKey then ["(legacy event metadata present)"] else [])

end WireSchemas.Headers
