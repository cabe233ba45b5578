import SqlClient.Url.Percent

namespace SqlClient.Form

def decode (text : Bytes) : String :=
  Utf8.decodeLossy (Percent.decode (text.map fun b ↦ if b = 0x2B then 0x20 else b))

def pair (text : Bytes) : String × String :=
  let (name, rest) := text.span (· ≠ 0x3D)
  (decode name, decode rest.tail)

/-- The pairs of a query in order. They stand between ampersands; an empty one does not count. -/
def pairs (query : String) : List (String × String) :=
  (((Utf8.encode query).splitOn 0x26).filter (!·.isEmpty)).map pair

end SqlClient.Form
