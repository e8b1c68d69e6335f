/-!
# Why no database is made

The address of the database may be wrong, the directories on the way to it may not be
possible, and the database itself may not open.
-/

namespace ReviewDesk

inductive LocationFault where
  | notAddress
  | emptyPort
  | badPort
  | manyVariants
  | unknownKind
  | missingKind
  | noVariant
  | hosted
  | badValue
  | manyValues
  | noPath
  deriving DecidableEq

def LocationFault.message : LocationFault → String
  | notAddress => "not an address"
  | emptyPort => "a colon without a port"
  | badPort => "the port is no number"
  | manyVariants => "more than one variant of a kind of database"
  | unknownKind => "no database of this kind"
  | missingKind => "databases of this kind cannot be reached from here"
  | noVariant => "not a variant of this kind of database"
  | hosted => "a database in a file has no host"
  | badValue => "an option has a value that does not fit"
  | manyValues => "an option has more than one value"
  | noPath => "options without a path"

inductive DirectoryFault where
  | isFile
  | insideFile
  | longName
  | zero
  deriving DecidableEq

def DirectoryFault.message : DirectoryFault → String
  | isFile => "a file is where a directory has to be"
  | insideFile => "a directory cannot lie in a file"
  | longName => "the name of a directory is too long"
  | zero => "the name of a directory holds a null character"

inductive OpeningFault where
  | largeNumber
  | badIsolation
  | noName
  | zero
  | badOption
  | unreachable
  | readOnly
  deriving DecidableEq

def OpeningFault.message : OpeningFault → String
  | largeNumber => "an option has a number that is too large"
  | badIsolation => "there is no such level of isolation"
  | noName => "the database has no name"
  | zero => "the name of the database holds a null character"
  | badOption => "an option of the file has a value that does not fit"
  | unreachable => "the file of the database cannot be opened"
  | readOnly => "the database cannot be written"

end ReviewDesk
