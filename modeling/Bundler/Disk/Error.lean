import Bundler.Path
import Bundler.Text.Quoted
import Bundler.Text.Utf8

/-!
# Bundler.Disk.Error

What can go wrong with files. Most errors come from the operating system: they have a number, a text
and the name of the path concerned.
-/

namespace Bundler

inductive SystemError where
  | notFound
  | alreadyExists
  | notDirectory
  | isDirectory
  | invalidArgument
  | nameTooLong
  | notEmpty
  | tooManyLinks
deriving Repr, DecidableEq

namespace SystemError

def number : SystemError → Nat
  | .notFound => 2
  | .alreadyExists => 17
  | .notDirectory => 20
  | .isDirectory => 21
  | .invalidArgument => 22
  | .nameTooLong => 36
  | .notEmpty => 39
  | .tooManyLinks => 40

def text : SystemError → String
  | .notFound => "No such file or directory"
  | .alreadyExists => "File exists"
  | .notDirectory => "Not a directory"
  | .isDirectory => "Is a directory"
  | .invalidArgument => "Invalid argument"
  | .nameTooLong => "File name too long"
  | .notEmpty => "Directory not empty"
  | .tooManyLinks => "Too many levels of symbolic links"

end SystemError

inductive FileError where
  /-- An error of the operating system, with the name of the path if it is known. -/
  | system (code : SystemError) (path : Option String)
  | linking (code : SystemError) (target path : String)
  /-- A tree to be removed is named by a link. -/
  | treeIsLink
  | nullByte
  | linkLoop (path : String)
  /-- A path begins at the home directory of nobody. -/
  | noHome
deriving Repr, DecidableEq

namespace FileError

def message : FileError → String
  | .system code path =>
    "[Errno " ++ toString code.number ++ "] " ++ code.text ++
      (path.map fun p => ": " ++ Text.quoted p).getD ""
  | .linking code target path =>
    "[Errno " ++ toString code.number ++ "] " ++ code.text ++ ": " ++ Text.quoted target ++ " -> " ++
      Text.quoted path
  | .treeIsLink => "Cannot call rmtree on a symbolic link"
  | .nullByte => "embedded null byte"
  | .linkLoop path => "Symlink loop from " ++ Text.quoted path
  | .noHome => "Could not determine home directory."

def isSystem : FileError → Bool
  | .system .. => true
  | .linking .. => true
  | .treeIsLink => true
  | _ => false

end FileError

inductive ReadError where
  | file (e : FileError)
  | undecodable (f : Text.Utf8.Fault)
deriving Repr, DecidableEq

def ReadError.message : ReadError → String
  | .file e => e.message
  | .undecodable f => f.message

end Bundler
