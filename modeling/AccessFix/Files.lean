import AccessFix.Text.Encoding

/-! A tree of folders and files as a plain value, with a working folder. A path is followed name by name: every
name before the last has to be an existing folder. Writing changes one file and nothing else, and is refused, for reasons
outside the tree, at routes that are read only. -/
namespace AccessFix

abbrev Route := List String

inductive Node where
  | folder
  | file (octets : List UInt8)
  deriving DecidableEq, Repr

structure Files where
  nodes : List (Route × Node)
  here : Route
  readOnly : List Route := []
  deriving Repr

inductive PathFault where
  | missing
  | isFolder
  | notFolder
  | tooLong
  | denied
  | zeroCharacter
  deriving DecidableEq, Repr

structure FileFault where
  fault : PathFault
  path : String
  deriving DecidableEq, Repr

def PathFault.message : PathFault → String
  | .missing => "[Errno 2] No such file or directory"
  | .isFolder => "[Errno 21] Is a directory"
  | .notFolder => "[Errno 20] Not a directory"
  | .tooLong => "[Errno 36] File name too long"
  | .denied => "[Errno 13] Permission denied"
  | .zeroCharacter => "embedded null byte"

/-- Whether a file system was asked and refused. A path that holds the character zero is never asked for. -/
def PathFault.isRefusal : PathFault → Bool
  | .zeroCharacter => false
  | _ => true

def FileFault.message (f : FileFault) : String :=
  if f.fault.isRefusal then f.fault.message ++ ": " ++ Text.quoted f.path else f.fault.message

inductive WriteFault where
  | file (fault : FileFault)
  | encoding (fault : Text.Unencodable)
  deriving DecidableEq, Repr

def WriteFault.message : WriteFault → String
  | .file f => f.message
  | .encoding f => Text.Codec.utf8.message f

namespace Path

def names (path : String) : List String :=
  (path.toList.splitOn '/').map String.ofList

def isAbsolute (path : String) : Bool := path.toList.head? = some '/'

def steps (path : String) : List String := (names path).filter fun n => n ≠ "" && n ≠ "."

def root (path : String) : String :=
  let n := (path.toList.takeWhile (· = '/')).length
  if n = 0 then "" else if n = 2 then "//" else "/"

def normal (path : String) : String :=
  let body := root path ++ "/".intercalate (steps path)
  if body = "" then "." else body

def follow (route : Route) : List String → Route
  | [] => route
  | n :: rest => follow (if n = ".." then route.dropLast else route ++ [n]) rest

def resolve (here : Route) (path : String) : Route :=
  follow (if isAbsolute path then [] else here) (steps path)

def ofRoute (route : Route) : String := "/" ++ "/".intercalate route

def suffixOf (name : String) : String :=
  let cs := name.toList
  let tail := (cs.reverse.takeWhile (· ≠ '.')).reverse
  let start := cs.length - tail.length - 1
  if tail.length < cs.length ∧ 0 < start ∧ tail ≠ [] then String.ofList ('.' :: tail) else ""

end Path

namespace Files

def node? (files : Files) (route : Route) : Option Node :=
  if route.isEmpty then some .folder
  else (files.nodes.find? fun n => n.1 = route).map Prod.snd

def nameLimit : Nat := 255

def pathLimit : Nat := 4096

def locate (files : Files) (route : Route) : List String → Except PathFault Route
  | [] => .ok route
  | n :: rest =>
    match files.node? route with
    | none => .error .missing
    | some (.file _) => .error .notFolder
    | some .folder =>
      if nameLimit < n.utf8ByteSize then .error .tooLong
      else
        files.locate
          (if n = ".." then route.dropLast else if n = "" ∨ n = "." then route else route ++ [n]) rest

def checkPath (path : String) : Except PathFault Unit :=
  if path.toList.any fun c => c.toNat = 0 then .error .zeroCharacter
  else if path = "" then .error .missing
  else if pathLimit ≤ path.utf8ByteSize then .error .tooLong
  else .ok ()

def origin (files : Files) (path : String) : Route := if Path.isAbsolute path then [] else files.here

def find (files : Files) (path : String) : Except PathFault Node := do
  checkPath path
  let r ← files.locate (files.origin path) (Path.names path)
  match files.node? r with
  | some node => return node
  | none => throw .missing

def find? (files : Files) (path : String) : Except FileFault (Option Node) :=
  match files.find path with
  | .ok node => .ok (some node)
  | .error .tooLong => .error ⟨.tooLong, path⟩
  | .error _ => .ok none

def read (files : Files) (path : String) : Except FileFault (List UInt8) :=
  match files.find path with
  | .error e => .error ⟨e, path⟩
  | .ok .folder => .error ⟨.isFolder, path⟩
  | .ok (.file octets) => .ok octets

def put (route : Route) (node : Node) : List (Route × Node) → List (Route × Node)
  | [] => [(route, node)]
  | (r, n) :: rest => if r = route then (r, node) :: rest else (r, n) :: put route node rest

def endsInFolder (path : String) : Bool :=
  match (Path.names path).getLast? with
  | some n => n = "" || n = "." || n = ".."
  | none => false

def folderNames (path : String) : List String :=
  ((Path.names path).reverse.dropWhile (· = "")).drop 1 |>.reverse

def target (files : Files) (path : String) : Except PathFault Route := do
  checkPath path
  if endsInFolder path then
    let _ ← files.locate (files.origin path) (folderNames path ++ ["."])
    throw .isFolder
  else
    let r ← files.locate (files.origin path) (Path.names path)
    if files.node? r = some .folder then throw .isFolder
    else if r ∈ files.readOnly then throw .denied
    else return r

def write (files : Files) (path : String) (octets : List UInt8) : Except FileFault Files :=
  match files.target path with
  | .error e => .error ⟨e, path⟩
  | .ok r => .ok { files with nodes := put r (.file octets) files.nodes }

/-- Writes a text. Opening empties the file, and empty it stays where the text has no encoding. -/
def writeText (files : Files) (path : String) (text : Letters) : Except WriteFault Unit × Files :=
  let coded := Text.Codec.utf8.encode text
  match files.write path (coded.toOption.getD []) with
  | .error fault => (.error (.file fault), files)
  | .ok files => ((coded.mapError .encoding).map fun _ => (), files)

def parents (route : Route) : List Route :=
  (List.range route.length).drop 1 |>.map fun n => route.take n

def makeFolder (files : Files) (route : Route) : Files :=
  { files with
    nodes := (parents route ++ [route]).foldl
      (fun ns r => if r.isEmpty || (ns.any fun n => n.1 = r) then ns else ns ++ [(r, .folder)]) files.nodes }

def delete (files : Files) (route : Route) : Files :=
  { files with nodes := files.nodes.filter fun n => n.1.take route.length ≠ route }

def empty (here : Route) : Files := makeFolder { nodes := [], here := here } here

end Files

end AccessFix
