import HitListing.Text.Quoted

/-!
# Faults

What can go wrong, one constructor for each cause.  Most causes need no words;
those that a reader of the message must tell apart carry what they are about,
and `Fault.message?` words them.
-/

namespace HitListing

/-- Why the index cannot look a document up. -/
inductive LookupProblem where
  /-- The table of documents is gone. -/
  | noTable
  /-- The id is a value of a kind that the index does not know. -/
  | unknownKind (kind : Text)
deriving DecidableEq, Repr

/-- The words for a problem. -/
def LookupProblem.text : LookupProblem → Text
  | .noTable => "no such table: documents"
  | .unknownKind kind => "Error binding parameter 1: type '" ++ kind ++ "' is not supported"

/-- Why an operation gave no answer. -/
inductive Fault where
  /-- A value of this kind takes no part in the operation. -/
  | wrongKind
  /-- A value of this kind lacks the member asked for. -/
  | noMember
  /-- An entry lacks a required key. -/
  | missingKey (key : Text)
  /-- A value of the right kind has no meaning here. -/
  | badValue
  /-- A number or a moment lies beyond what can be held. -/
  | outOfRange
  /-- A stored date is no string of digits of a known length. -/
  | badDate (value : Text)
  /-- The parent or the name of a document without a path was asked for. -/
  | noPath (id : Int)
  /-- A stored definition table is no list. -/
  | definitionsNotList
  /-- An entry of a stored definition table does not fit. -/
  | badDefinition (problem : Text)
  /-- A stored scope table is no list. -/
  | scopesNotList
  /-- An entry of a stored scope table does not fit. -/
  | badScope (problem : Text)
  /-- A text is not JSON. -/
  | badJson
  /-- Bytes are not UTF-8. -/
  | badUtf8
  /-- Markup declares something that the reader does not know. -/
  | badMarkup
  /-- A tag of a console text closes nothing, or carries what makes no sense. -/
  | badTag
  /-- There is no file at the path. -/
  | fileMissing (path : Text)
  /-- The path leads to a directory. -/
  | isDirectory (path : Text)
  /-- A path goes through a file as if it were a directory. -/
  | notDirectory (path : Text)
  /-- A file lies where a directory is to be made. -/
  | fileExists
  /-- The system refuses what a path asks for. -/
  | refused
  /-- Compressed data ends too early. -/
  | endOfStream
  /-- Compressed data lacks its header or its checksum is wrong. -/
  | badGzip
  /-- Compressed data breaks the rules of its format. -/
  | badDeflate
  /-- The index holds no document with this id. -/
  | documentMissing (id : Text)
  /-- The index cannot look the document up. -/
  | documentUnreadable (id : Text) (problem : LookupProblem)
  /-- An id is a value of a kind that the index does not know. -/
  | unknownIdKind (kind : Text)
  /-- Another document has the id. -/
  | duplicateId
  /-- The table of documents is gone. -/
  | noTable
  /-- The index cannot do what it is to do, such as open where none can be opened. -/
  | indexUnreachable
  /-- A file is no index. -/
  | notIndex
  /-- A transaction was given up. -/
  | aborted
deriving DecidableEq, Repr

namespace Fault

/-- A file name or a path is too long.  No handler tells this from other refusals. -/
@[match_pattern] abbrev nameTooLong : Fault := refused

/-- The index has no id left for a document.  No handler tells this from what else the index cannot
do. -/
abbrev indexFull : Fault := indexUnreachable

/-- The words for a fault, where it has any. -/
def message? : Fault → Option Text
  | missingKey key => some (quoted key)
  | badDate value => some ("Invalid index date: " ++ quoted value)
  | noPath id => some ("document " ++ Text.ofInt id ++ " has no path")
  | definitionsNotList => some "Definitions payload must be a list"
  | badDefinition problem => some ("Malformed definition entry: " ++ problem)
  | scopesNotList => some "Scopes payload must be a list"
  | badScope problem => some ("Malformed scope entry: " ++ problem)
  | fileMissing path => some ("[Errno 2] No such file or directory: " ++ quoted path)
  | isDirectory path => some ("[Errno 21] Is a directory: " ++ quoted path)
  | notDirectory path => some ("[Errno 20] Not a directory: " ++ quoted path)
  | documentMissing id => some ("Document " ++ id ++ " is missing from the index")
  | documentUnreadable id problem =>
    some ("Unable to read document " ++ id ++ ": " ++ problem.text)
  | aborted => some "boom"
  | _ => none

/-- Whether a fault arises from a file that could not be opened or read. -/
def isFileFault : Fault → Bool
  | fileMissing _ => true
  | isDirectory _ => true
  | notDirectory _ => true
  | refused => true
  | badGzip => true
  | _ => false

/-- Whether a fault is about a value of the right kind that has no meaning. -/
def isValueFault : Fault → Bool
  | badValue => true
  | badDate _ => true
  | noPath _ => true
  | definitionsNotList => true
  | badDefinition _ => true
  | scopesNotList => true
  | badScope _ => true
  | badJson => true
  | badUtf8 => true
  | _ => false

end Fault

end HitListing
