import SceneSchema.Text.Quoted
import SceneSchema.Text.Utf8
import SceneSchema.Value.Type

/-!
# Why an operation fails

`Error` has one constructor per cause, each with what its message needs; `Error.message` is the only
place where causes are put into words. Bytes that make no sense where they stand have causes of
their own (`BadData`).

`Error.isModuleError` picks the failures to find, load or use a module file, and
`Error.isCodecError` the failures to read encoded values. `bind_eq_ok_iff` takes a sequence of
operations that can fail apart.
-/

namespace SceneSchema

/-- Why the platform's loader turns a request down. -/
inductive LoaderReason where
  /-- For a reason the platform words itself; those words are not modelled. -/
  | platform
  /-- The symbol exists and its address is zero. -/
  | nullAddress
  deriving DecidableEq, Repr

/-- The reason in words. -/
def LoaderReason.message : LoaderReason → String
  | .platform => "<loader>"
  | .nullAddress => "symbol resolves to a null address"

/-- Data that is present and makes no sense. -/
inductive BadData where
  /-- A byte other than 0 and 1 where a truth value is read. -/
  | boolByte (byte : UInt8) (offset : Nat)
  /-- A variable-length number of more than 64 bits. -/
  | numberTooLong (offset : Nat)
  /-- An element count for which no buffer could hold the elements. -/
  | countTooLarge (count offset : Nat)
  /-- A text that is not UTF-8. -/
  | notUtf8 (offset : Nat) (fault : Utf8Fault)
  /-- Bytes left over after the last of `count` attributes. -/
  | trailing (bytes count : Nat) (className : String)
  /-- An object name that a module cannot be handed. -/
  | nulInName (name : String)
  deriving DecidableEq, Repr

/-- What is wrong with the data, in words. -/
def BadData.message : BadData → String
  | .boolByte byte offset =>
      "bool byte " ++ toString byte.toNat ++ " at offset " ++ toString offset
  | .numberTooLong offset =>
      "variable-length uint at offset " ++ toString offset ++ " overflows 64 bits"
  | .countTooLarge count offset =>
      "element count " ++ toString count ++ " at offset " ++ toString offset ++ " is too large"
  | .notUtf8 offset fault =>
      "string at offset " ++ toString offset ++ " is not UTF-8: " ++ fault.message
  | .trailing bytes count className =>
      toString bytes ++ " trailing bytes after " ++ toString count ++ " attributes of '" ++
        className ++ "'"
  | .nulInName name => "object name " ++ quoted name ++ " contains a NUL byte"

/-- The causes of failure. -/
inductive Error where
  /-- No directory of the search path has the module file of the class. -/
  | moduleNotFound (className searchPath : String)
  /-- The module file exists and the loader refuses it. -/
  | moduleLoadFailed (path : String) (reason : LoaderReason)
  /-- A loaded module lacks an entry point. -/
  | symbolNotFound (symbol path : String) (reason : LoaderReason)
  /-- The module has been closed. -/
  | moduleClosed (path : String)
  /-- The class already has an attribute or alias of the name. -/
  | duplicateAttribute (className attr : String)
  /-- The class takes no further declarations. -/
  | classFinalized (className attr : String)
  /-- The declaration of the class gave up. -/
  | declarationFailed (className reason : String)
  /-- A repeated declaration differs from the first one. -/
  | conflictingDeclaration (className : String)
  /-- The class has no attribute of the name. -/
  | unknownAttribute (className attr : String)
  /-- The attribute has another type. -/
  | typeMismatch (attr : String) (declared expected : ValueType)
  /-- The key was not issued by the class it is used with. -/
  | foreignKey (className target : String)
  /-- There is no class of the name. -/
  | classNotFound (name : String)
  /-- The class was loaded for its declaration only. -/
  | proxyMode (className : String)
  /-- The module built no object, or one of another class. -/
  | createFailed (className object : String)
  /-- The buffer is shorter than the header. -/
  | bufferTooSmall (size : Nat)
  /-- The header records another length than the buffer has. -/
  | sizeMismatch (size header : Nat)
  /-- The data ends before the value does. -/
  | truncated (need offset available : Nat)
  /-- The data makes no sense. -/
  | invalidData (what : BadData)
  deriving DecidableEq, Repr

namespace Error

/-- The cause in words. -/
def message : Error → String
  | moduleNotFound className searchPath =>
      "Couldn't find DSO for '" ++ className ++ "' in search path '" ++ searchPath ++ "'"
  | moduleLoadFailed path reason =>
      "Found RDL2 DSO '" ++ path ++ "', but failed to load it: " ++ reason.message
  | symbolNotFound symbol path reason =>
      "Failed to load symbol '" ++ symbol ++ "' from RDL2 DSO '" ++ path ++ "': " ++
        reason.message
  | moduleClosed path => "RDL2 DSO '" ++ path ++ "' has been closed"
  | duplicateAttribute className attr =>
      "Attribute '" ++ attr ++ "' is already declared in SceneClass '" ++ className ++ "'"
  | classFinalized className attr =>
      "SceneClass '" ++ className ++ "' is finalized, cannot declare '" ++ attr ++ "'"
  | declarationFailed className reason =>
      "Declaration of SceneClass '" ++ className ++ "' failed: " ++ reason
  | conflictingDeclaration className =>
      "SceneClass '" ++ className ++ "' was declared again with a different attribute table"
  | unknownAttribute className attr =>
      "SceneClass '" ++ className ++ "' has no attribute '" ++ attr ++ "'"
  | typeMismatch attr declared expected =>
      "Attribute '" ++ attr ++ "' is declared as " ++ declared.name ++ ", not " ++
        expected.name
  | foreignKey className target =>
      "AttributeKey issued by another SceneClass used on '" ++ target ++ "' (SceneClass '" ++
        className ++ "')"
  | classNotFound name => "SceneClass '" ++ name ++ "' not found"
  | proxyMode className =>
      "SceneClass '" ++ className ++ "' was loaded in proxy mode and cannot create objects"
  | createFailed className object =>
      "DSO for SceneClass '" ++ className ++ "' failed to create object '" ++ object ++ "'"
  | bufferTooSmall size =>
      "Could not get ValueContainerDequeue header size info (buffer is " ++ toString size ++
        " bytes)"
  | sizeMismatch size header =>
      "Encode data length is not match with ValueContainerDequeue header. dataSize:" ++
        toString size ++ " != header:" ++ toString header
  | truncated need offset available =>
      "Truncated decode: need " ++ toString need ++ " bytes at offset " ++ toString offset ++
        ", have " ++ toString available
  | invalidData what => "Invalid data: " ++ what.message

/-- A module file could not be found, loaded or used. -/
def isModuleError : Error → Bool
  | moduleNotFound .. | moduleLoadFailed .. | symbolNotFound .. | moduleClosed .. => true
  | _ => false

/-- Encoded values could not be read. -/
def isCodecError : Error → Bool
  | bufferTooSmall .. | sizeMismatch .. | truncated .. | invalidData .. => true
  | _ => false

end Error

/-- Of two operations one after the other, both succeed or neither has an effect. -/
theorem bind_eq_ok_iff {α β : Type} {x : Except Error α} {f : α → Except Error β} {b : β} :
    x >>= f = .ok b ↔ ∃ a, x = .ok a ∧ f a = .ok b := by
  rcases x with e | a
  · exact ⟨fun h => (by cases h), fun ⟨_, h, _⟩ => (by cases h)⟩
  · exact ⟨fun h => ⟨a, rfl, h⟩, fun ⟨_, h, h'⟩ => (by cases h; exact h')⟩

end SceneSchema
