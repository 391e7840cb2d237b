import Offside.Text.Newline
import Offside.Text.Utf8

/-! # Sources

A source is a text with the path that messages show for it. A text given directly is kept as it is;
the content of a file is decoded and its line ends are normalized.
-/

namespace Offside

/-- A text to be read and the path it is known by. -/
structure Source where
  path : String
  text : Text
deriving DecidableEq, Repr

namespace Source

/-- Why a file could not be made a source. -/
inductive LoadError where
  /-- There is no such file. -/
  | missing (path : String)
  /-- The content is no UTF-8 text: the first bad sequence starts at `offset`. -/
  | notUtf8 (path : String) (offset : Nat)
deriving DecidableEq, Repr

/-- The wording of a load error. -/
def LoadError.message : LoadError → String
  | .missing path => s!"cannot read `{path}`: No such file or directory (os error 2)"
  | .notUtf8 path offset => s!"`{path}` is not valid UTF-8 (first invalid byte at offset {offset})"

/-- The path shown for a text that came from no file. -/
def noPath : String := "<NoPath>"

/-- The source of a text that came from no file, taken as it is. -/
def ofText (text : Text) : Source := ⟨noPath, text⟩

/-- The source of a file with this content, where `none` stands for a file that does not exist. -/
def load (path : String) (content? : Option ByteArray) : Except LoadError Source :=
  match content? with
  | none => .error (.missing path)
  | some bytes =>
    match Text.decode bytes with
    | .ok text => .ok ⟨path, Text.normalizeNewlines text⟩
    | .error offset => .error (.notUtf8 path offset)

/-- The size of the text in bytes, which is also the position of its end. -/
def byteSize (source : Source) : Nat := Text.byteLength source.text

end Source

end Offside
