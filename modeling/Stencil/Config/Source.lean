import Stencil.Config.Record
import Stencil.Json.Reader
import Stencil.Toml.Reader

/-! # Configuration files

A configuration is read in the format that the extension of its file names.
-/

namespace Stencil

/-- Why a configuration could not be had. -/
inductive ConfigError where
  | unreadable
  | illFormed
  | unsupported (extension : Text) (path : Text)
deriving DecidableEq

namespace ConfigError

/-- What is reported of an extension that names no format. -/
def message? : ConfigError → Option Text
  | unsupported extension path =>
    some ("failed to parse config file: unsupported config extension `".toList ++ extension ++
      "` for ".toList ++ path)
  | _ => none

end ConfigError

def Config.ofText (format : Format) (text : Text) : Except ConfigError Config :=
  let value := match format with
    | .json => Json.read? text
    | .toml => Toml.read? text
  match value.bind (Config.ofValue? format) with
  | some config => .ok config
  | none => .error .illFormed

namespace Path

/-- The parts of a path between slashes, without those that lead nowhere. -/
def parts (path : Text) : List Text :=
  (path.splitOn '/').filter fun part => !(part.isEmpty || part == ['.'])

/-- The name of the file that a path leads to, if it ends with one. -/
def fileName? (path : Text) : Option Text :=
  match (parts path).getLast? with
  | some name => if name = ['.', '.'] then none else some name
  | none => none

/-- What follows the last dot of a file's name. A name that has its only dot in front has no
extension. -/
def extension? (path : Text) : Option Text := do
  let name ← fileName? path
  let reversed := name.reverse
  match reversed.dropWhile (· != '.') with
  | [] => none
  | [_] => none
  | _ :: _ :: _ => return (reversed.takeWhile (· != '.')).reverse

end Path

/-- Reads a configuration from a file with some content, if the file could be read. -/
def Config.ofFile (path : Text) (content : Option Text) : Except ConfigError Config :=
  match content with
  | none => .error .unreadable
  | some text =>
    let extension := Path.extension? path
    if extension = some "json".toList then Config.ofText .json text
    else if extension = some "toml".toList then Config.ofText .toml text
    else .error (.unsupported (extension.getD []) path)

end Stencil
