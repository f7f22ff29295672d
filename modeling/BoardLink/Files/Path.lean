import BoardLink.Text.Characters
import BoardLink.Text.Utf8

-- Written file paths: the steps they name, their parents, and how they are joined.
namespace BoardLink

structure FilePath where
  text : String
  deriving DecidableEq, Repr, Inhabited

namespace FilePath

open Text

def isAbsolute (path : FilePath) : Bool := path.text.toList.head? = some '/'

-- What stands between the slashes.
def split (path : FilePath) : List String := (pieces '/' path.text.toList).map String.ofList

-- The names on the way. A single dot is a step that stays where it is.
def steps (path : FilePath) : List String := path.split.filter (· ≠ "")

-- Paths that end in a slash can only name a directory.
def namesDirectory (path : FilePath) : Bool := path.split.getLast? = some ""

-- The length in bytes, which is what the system limits.
def size (path : FilePath) : Nat := (Utf8.encode path.text.toList).length

-- An absolute path stands for itself. Otherwise a slash goes between the two.
def join (base : FilePath) (next : String) : FilePath :=
  if next.toList.head? = some '/' ∨ base.text = "" then ⟨next⟩
  else if base.text.toList.getLast? = some '/' then ⟨base.text ++ next⟩
  else ⟨base.text ++ "/" ++ next⟩

-- The path without its last step. Slashes and single dots on both sides of that step go with it,
-- but not those in front of the whole path. The root and the empty path have no parent.
def parent? (path : FilePath) : Option FilePath :=
  let isFiller (piece : String) : Bool := piece = "" || piece = "."
  let (front, body) := match path.split with
    | "" :: body => ([""], body)
    | "." :: body => (["."], body)
    | body => ([], body)
  match body.reverse.dropWhile isFiller with
  | [] => if front = ["."] then some ⟨""⟩ else none
  | _ :: above =>
    match front ++ (above.dropWhile isFiller).reverse with
    | [""] => some ⟨"/"⟩
    | kept => some ⟨String.intercalate "/" kept⟩

end FilePath
end BoardLink
