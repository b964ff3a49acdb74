import ConceptInventory.CommandLine.Path
import ConceptInventory.Text.Message

/-!
# Files

Reading a file gives its text, or says why there is none. A store of files is known by
what it answers: what a path leads to, whether a file can be made at it, and what is
there once a file is written. Nothing is said of how it keeps them.
-/
namespace ConceptInventory.CommandLine

/-- Why a path cannot be opened. -/
inductive Obstacle
  | missing
  | isDirectory
  /-- The path goes on below a file. -/
  | belowFile
  | nameTooLong
  | zeroByte
  /-- Anything else, with what is said of it. -/
  | other (complaint : String)
deriving DecidableEq, Repr

namespace Obstacle

/-- What the system says of a path, behind the number of the fault. -/
def numbered (number : Nat) (fault : String) (p : PathName) : String :=
  "[Errno " ++ toString number ++ "] " ++ fault ++ ": " ++ Message.showText p.shown

def message (p : PathName) : Obstacle → String
  | .missing => numbered 2 "No such file or directory" p
  | .isDirectory => numbered 21 "Is a directory" p
  | .belowFile => numbered 20 "Not a directory" p
  | .nameTooLong => numbered 36 "File name too long" p
  | .zeroByte => "embedded null byte"
  | .other complaint => complaint

end Obstacle

/-- What a path leads to when it is read. -/
inductive Look
  | text (content : String)
  /-- A file whose bytes are no text, with what is said of them. -/
  | undecodable (complaint : String)
  | closed (o : Obstacle)
deriving DecidableEq, Repr

/-- A store of files. -/
structure FileSystem where
  State : Type
  look : State → PathName → Look
  /-- What keeps a file from being written at a path, if anything does. -/
  obstacle? : State → PathName → Option Obstacle
  write : State → PathName → String → State

/-- What is written where nothing keeps it from being written is there afterwards. -/
structure FileSystem.Keeps (fs : FileSystem) : Prop where
  look_write : ∀ (d : fs.State) (p : PathName) (content : String),
    fs.obstacle? d p = none → fs.look (fs.write d p content) p = .text content

end ConceptInventory.CommandLine
