import SceneSchema.Disk.SearchPath
import SceneSchema.Plugin.Library

/-!
# Recognising a library by its bytes

A shared object is recognised by its first four bytes, and an entry point counts as present if the
name of its symbol occurs in the file, since the names of exported symbols are stored as plain text.
Nothing in the file is run, so a library recognised in this way declares nothing.
-/

namespace SceneSchema.Probe

/-- Whether the bytes occur in a row. -/
def occursIn (needle : List UInt8) : List UInt8 → Bool
  | [] => needle.isEmpty
  | b :: rest => needle.isPrefixOf (b :: rest) || occursIn needle rest

/-- The first bytes of a shared object. -/
def magic : List UInt8 := [0x7f, 0x45, 0x4c, 0x46]

/-- Whether the name of an entry point's symbol occurs. -/
def exportOf (bytes : List UInt8) (entry : EntryPoint) : Export :=
  if occursIn (utf8Bytes entry.symbol) bytes then .present else .missing

/-- What a file with the given bytes is. -/
def content (bytes : List UInt8) : FileContent :=
  if magic.isPrefixOf bytes then
    .library
      { declare := exportOf bytes .declare
        create := exportOf bytes .create
        destroy := exportOf bytes .destroy
        code := .scripted }
  else .other

/-- Whether the name of a file matters to a search: modules, and the launcher. -/
def isRelevant (name : String) : Bool :=
  ".so".toList.isSuffixOf name.toList || ".proxy".toList.isSuffixOf name.toList ||
    Path.stem name == SearchPath.launcher

end SceneSchema.Probe
