/-! Indented JSON text, put together from lines. -/

namespace RobotPuzzle.Json.Layout

/-- The lines, each two columns further in. -/
def indent (lines : List String) : List String :=
  lines.map ("  " ++ ·)

/-- The lines with a text put before the first. -/
def before (text : String) : List String → List String
  | [] => [text]
  | line :: lines => (text ++ line) :: lines

/-- The lines with a comma behind the last. -/
def withComma : List String → List String
  | [] => []
  | [line] => [line ++ ","]
  | line :: lines => line :: withComma lines

/-- The parts one below the other, with commas between them. -/
def separate : List (List String) → List String
  | [] => []
  | [part] => part
  | part :: parts => withComma part ++ separate parts

def array (items : List (List String)) : List String :=
  if items.isEmpty then ["[]"] else "[" :: indent (separate items) ++ ["]"]

def object (members : List (String × List String)) : List String :=
  let parts := members.map fun (key, part) => before ("\"" ++ key ++ "\": ") part
  "\x7b" :: indent (separate parts) ++ ["\x7d"]

def number (n : Int) : List String :=
  [toString n]

def bool (b : Bool) : List String :=
  [if b then "true" else "false"]

def word (text : String) : List String :=
  ["\"" ++ text ++ "\""]

/-- The lines as one text, with no line end behind the last. -/
def text (lines : List String) : String :=
  "\n".intercalate lines

end RobotPuzzle.Json.Layout
