import SqlClient.Url.Percent

namespace SqlClient.Url.Path

abbrev Segment := List Char

def undot (segment : Segment) : Segment :=
  match segment with
  | '%' :: '2' :: 'e' :: rest | '%' :: '2' :: 'E' :: rest => '.' :: undot rest
  | c :: rest => c :: undot rest
  | [] => []

def isDot (segment : Segment) : Bool :=
  undot segment = ['.']

def isDoubleDot (segment : Segment) : Bool :=
  undot segment = ['.', '.']

def startsWithDrive : Segment → Bool
  | [letter, c] => letter.isAlpha && (c = ':' || c = '|')
  | letter :: c :: '\\' :: _ => letter.isAlpha && (c = ':' || c = '|')
  | _ => false

/-- The segments above the last one. A drive letter is never left. -/
def shorten (segments : List Segment) : List Segment :=
  match segments.getLast? with
  | none => []
  | some last => if startsWithDrive last then segments else segments.dropLast

def add (segments : List Segment) (segment : Segment) : List Segment :=
  if isDoubleDot segment then shorten segments
  else if isDot segment then segments
  else segments ++ [Percent.encode Percent.pathSet segment]

/-- Dots at the end of a path leave an empty segment there. -/
def addLast (segments : List Segment) (segment : Segment) : List Segment :=
  if isDoubleDot segment then shorten segments ++ [[]]
  else if isDot segment then segments ++ [[]]
  else add segments segment

def resolve (text : List Char) : List Segment :=
  let segments := text.splitOn '/'
  addLast (segments.dropLast.foldl add []) (segments.getLast?.getD [])

def render (segments : List Segment) : List Char :=
  '/' :: (segments.intersperse ['/']).flatten

end SqlClient.Url.Path
