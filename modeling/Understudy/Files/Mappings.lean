import Understudy.Files.Basic
import Understudy.Form.Printing
import Understudy.Form.Reading
import Understudy.Json.Printer

/-!
# Mapping files

Mappings are kept in files of a directory, one written form or a list of them in each. `Form.Mapping.save` writes a file
named for the GUID and `FileStore.loadMappings` reads all files of a directory, in the order of their names.
-/

namespace Understudy

/-- What stands behind the last point of a file name, when something stands before it. -/
def extension? (name : String) : Option String :=
  let back := name.toList.reverse.takeWhile (· != '.')
  if back.length + 1 < name.length then some (String.ofList back.reverse) else none

def isJsonFile (name : String) : Bool := (extension? name).any (Text.sameName · "json")

def pathText (directory name : String) : String :=
  if directory.isEmpty || directory.endsWith "/" then directory ++ name else directory ++ "/" ++ name

def readMappingFile (path : String) (content : Bytes) : Except Error (List Form.Mapping) :=
  match Bytes.text? content with
  | some text => (Form.readMappings text).mapError (.inFile path)
  | none => throw .file

def FileStore.loadMappings (files : FileStore) (directory : String) :
    Except Error (List Form.Mapping) :=
  let path := FilePath.ofText directory
  if files.isDirectory path then
    ((files.filesIn path).filter (isJsonFile ·.1)).flatMapM fun (name, content) =>
      readMappingFile (pathText directory name) content
  else throw .file

def mappingFileName (guid : Guid) : String := guid.text ++ ".json"

/-- Writes a form into a directory, which is made when it is not there; gives the text of the path. -/
def Form.Mapping.save (form : Form.Mapping) (files : FileStore) (directory : String) :
    Except Error (String × FileStore) :=
  match form.guid with
  | none => throw (.mapping .noGuid)
  | some guid =>
    let path := FilePath.ofText directory
    let name := mappingFileName guid
    match (files.makeDirectory? path).bind fun files =>
        files.write? (path ++ [name]) (Bytes.ofText form.toJson.pretty) with
    | some files => pure (pathText directory name, files)
    | none => throw .file

end Understudy
