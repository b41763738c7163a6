import PlayerPage.Text.Utf8
import PlayerPage.Value.Literal

/-!
Faults: what goes wrong in a single step on values of the wrong kind or texts of the wrong form.

* `Fault`: one constructor for each cause, with what the cause is about.
* `Fault.kind`, `Fault.arguments`, `Fault.message`, `Fault.literal`: its class, what it carries,
  its text, and the text that shows it inside another message.
* `Fault.given`: a fault that a collaborator brings, of a class and with arguments of its choice;
  `Fault.system` sorts a system fault by its error number.
-/

namespace PlayerPage

/-- The classes of faults. -/
inductive FaultKind where
  | type
  | value
  | key
  | index
  | attribute
  | zeroDivision
  | overflow
  | lookup
  | assertion
  | frozen
  | json
  | xml
  | undecodable
  | unicode
  | system
  | blocking
  | childProcess
  | brokenPipe
  | connectionAborted
  | connectionRefused
  | connectionReset
  | fileExists
  | fileMissing
  | isDirectory
  | notDirectory
  | interrupted
  | permission
  | processMissing
  | timeout
  deriving DecidableEq, Repr

namespace FaultKind

/-- The name of a class in messages. -/
def name : FaultKind → String
  | .type => "TypeError"
  | .value => "ValueError"
  | .key => "KeyError"
  | .index => "IndexError"
  | .attribute => "AttributeError"
  | .zeroDivision => "ZeroDivisionError"
  | .overflow => "OverflowError"
  | .lookup => "LookupError"
  | .assertion => "AssertionError"
  | .frozen => "FrozenInstanceError"
  | .json => "JSONDecodeError"
  | .xml => "ParseError"
  | .undecodable => "UnicodeDecodeError"
  | .unicode => "UnicodeError"
  | .system => "OSError"
  | .blocking => "BlockingIOError"
  | .childProcess => "ChildProcessError"
  | .brokenPipe => "BrokenPipeError"
  | .connectionAborted => "ConnectionAbortedError"
  | .connectionRefused => "ConnectionRefusedError"
  | .connectionReset => "ConnectionResetError"
  | .fileExists => "FileExistsError"
  | .fileMissing => "FileNotFoundError"
  | .isDirectory => "IsADirectoryError"
  | .notDirectory => "NotADirectoryError"
  | .interrupted => "InterruptedError"
  | .permission => "PermissionError"
  | .processMissing => "ProcessLookupError"
  | .timeout => "TimeoutError"

/-- The classes of failed input and output. -/
def isSystem : FaultKind → Bool
  | .system | .blocking | .childProcess | .brokenPipe | .connectionAborted
  | .connectionRefused | .connectionReset | .fileExists | .fileMissing | .isDirectory
  | .notDirectory | .interrupted | .permission | .processMissing | .timeout => true
  | _ => false

/-- The classes of unusable values, texts that are no JSON or no UTF-8 among them. -/
def isValue : FaultKind → Bool
  | .value | .json | .undecodable | .unicode => true
  | _ => false

/-- The class of a system fault with the error number `n`. -/
def ofErrorNumber (n : Int) : FaultKind :=
  if n == 11 || n == 114 || n == 115 then .blocking
  else if n == 32 || n == 108 then .brokenPipe
  else if n == 10 then .childProcess
  else if n == 103 then .connectionAborted
  else if n == 111 then .connectionRefused
  else if n == 104 then .connectionReset
  else if n == 17 then .fileExists
  else if n == 2 then .fileMissing
  else if n == 21 then .isDirectory
  else if n == 20 then .notDirectory
  else if n == 4 then .interrupted
  else if n == 13 || n == 1 then .permission
  else if n == 3 then .processMissing
  else if n == 110 then .timeout
  else .system

end FaultKind

/-- A place in a text: lines count from one, columns as the format of the message wants it. -/
structure Place where
  line : Nat
  column : Nat
  deriving DecidableEq, Repr

/-- What went wrong in a step. -/
inductive Fault where
  /-- A fault that a collaborator brings. -/
  | given (kind : FaultKind) (arguments : List Value)
  | badInteger (text : String)
  | longInteger (digits : Nat)
  | infiniteInteger
  | undefinedInteger
  | hugeInteger
  | notInteger (kind : String)
  | integerDivision
  | floatDivision
  | badContentType (value : Value)
  | unhashable (kind : String)
  | noAttribute (kind name : String)
  | attributeName (kind : String)
  | notAType
  | noLength (kind : String)
  | notOrdered (left right : String)
  | badCutIndex
  | searchText (kind : String)
  | joinText (kind : String)
  | joinList (kind : String)
  | joinTuple (kind : String)
  | joinBytes (kind : String)
  | noSum (left right : String)
  | templateTooFew
  | templateTooMany
  | templateNumber (kind : String)
  | templateIncomplete
  | templateLetter (letter : Char) (index : Nat)
  | json (what : String) (place : Place) (index : Nat)
  | jsonKind (kind : String)
  | undecodable (encoding : String) (bytes : List UInt8) (start stop : Nat) (reason : String)
  | xml (what : String) (place : Place)
  | notBytes (kind : String)
  | patternText (kind : String)
  | unknownEncoding (name : String)
  | notTextEncoding (name direction : String)
  | charsetName (kind : String)
  | wideEncoding
  | failingEncoding (name reason : String)
  | notText
  | urlText
  | notRequest
  | notIterable (kind : String)
  | pairLength (index length : Nat)
  | pairKind (index : Nat)
  | joinItem (index : Nat) (kind : String)
  | closed
  | readCount (kind : String)
  | hugeCount
  | unknownSource (value : Value)
  | frozenAssign (field : String)
  | frozenDelete (field : String)
  | missingArguments (callable : String) (names : List String)
  | unexpectedArgument (callable name : String)
  | repeatedArgument (callable name : String)
  | tooManyArguments (callable : String) (least most count : Nat)
  | badSeverity (value : Value)
  | missingKey (key : Value)
  | listIndex
  | listAssignIndex
  | listKey (kind : String)
  | textIndex
  | textKey (kind : String)
  | noSubscript (kind : String)
  | noAssign (kind : String)
  | noDelete (kind : String)

namespace Fault

/-- Names as they stand in a sentence: quoted, with commas and an `and` before the last. -/
def enumeration : List String → String
  | [] => ""
  | [a] => "'" ++ a ++ "'"
  | [a, b] => "'" ++ a ++ "' and '" ++ b ++ "'"
  | names => go names
where
  /-- The names of a list of at least three. -/
  go : List String → String
    | [] => ""
    | [a] => "and '" ++ a ++ "'"
    | a :: rest => "'" ++ a ++ "', " ++ go rest

/-- The first `n` characters of a text. -/
def firstChars (n : Nat) (s : String) : String :=
  String.ofList (s.toList.take n)

/-- The class of a fault. -/
def kind : Fault → FaultKind
  | .given kind _ => kind
  | .badInteger _ | .longInteger _ | .undefinedInteger | .badContentType _
  | .templateIncomplete | .templateLetter .. | .wideEncoding | .pairLength .. | .closed
  | .unknownSource _ | .badSeverity _ => .value
  | .infiniteInteger | .hugeInteger | .hugeCount => .overflow
  | .integerDivision | .floatDivision => .zeroDivision
  | .noAttribute .. => .attribute
  | .failingEncoding .. => .unicode
  | .json .. => .json
  | .undecodable .. => .undecodable
  | .xml .. => .xml
  | .unknownEncoding _ | .notTextEncoding .. => .lookup
  | .notText => .assertion
  | .frozenAssign _ | .frozenDelete _ => .frozen
  | .missingKey _ => .key
  | .listIndex | .listAssignIndex | .textIndex => .index
  | _ => .type

/-- The sentence about the cause of a fault that the library itself finds. -/
def sentence : Fault → String
  | .badInteger text =>
    "invalid literal for int() with base 10: " ++ firstChars 200 (Value.str text).literal
  | .longInteger digits =>
    "Exceeds the limit (4300 digits) for integer string conversion: value has " ++
      (Value.int digits).display ++
      " digits; use sys.set_int_max_str_digits() to increase the limit"
  | .infiniteInteger => "cannot convert float infinity to integer"
  | .undefinedInteger => "cannot convert float NaN to integer"
  | .hugeInteger => "int too large to convert to float"
  | .notInteger kind =>
    "int() argument must be a string, a bytes-like object or a real number, not '" ++ kind ++ "'"
  | .integerDivision => "integer division or modulo by zero"
  | .floatDivision => "float floor division by zero"
  | .badContentType v => "Invalid content type " ++ v.literal
  | .unhashable kind => "unhashable type: '" ++ kind ++ "'"
  | .noAttribute kind name => "'" ++ kind ++ "' object has no attribute '" ++ name ++ "'"
  | .attributeName kind => "attribute name must be string, not '" ++ kind ++ "'"
  | .notAType => "isinstance() arg 2 must be a type, a tuple of types, or a union"
  | .noLength kind => "object of type '" ++ kind ++ "' has no len()"
  | .notOrdered left right =>
    "'>' not supported between instances of '" ++ left ++ "' and '" ++ right ++ "'"
  | .badCutIndex => "slice indices must be integers or None or have an __index__ method"
  | .searchText kind => "must be str, not " ++ kind
  | .joinText kind => "can only concatenate str (not \"" ++ kind ++ "\") to str"
  | .joinList kind => "can only concatenate list (not \"" ++ kind ++ "\") to list"
  | .joinTuple kind => "can only concatenate tuple (not \"" ++ kind ++ "\") to tuple"
  | .joinBytes kind => "can't concat " ++ kind ++ " to bytes"
  | .noSum left right =>
    "unsupported operand type(s) for +: '" ++ left ++ "' and '" ++ right ++ "'"
  | .templateTooFew => "not enough arguments for format string"
  | .templateTooMany => "not all arguments converted during string formatting"
  | .templateNumber kind => "%d format: a real number is required, not " ++ kind
  | .templateIncomplete => "incomplete format"
  | .templateLetter letter index =>
    "unsupported format character '" ++ String.singleton letter ++ "' (0x" ++
      String.ofList (Nat.toDigits 16 letter.toNat) ++ ") at index " ++
      (Value.int index).display
  | .json what place index =>
    what ++ ": line " ++ (Value.int place.line).display ++ " column " ++
      (Value.int place.column).display ++ " (char " ++ (Value.int index).display ++ ")"
  | .jsonKind kind => "the JSON object must be str, bytes or bytearray, not " ++ kind
  | .undecodable encoding bytes start stop reason =>
    "'" ++ encoding ++ "' codec can't decode " ++
      (if stop == start + 1 then
        "byte 0x" ++ String.ofList (Text.hex 2 ((bytes[start]?.map (·.toNat)).getD 0)) ++
          " in position " ++ (Value.int start).display
      else
        "bytes in position " ++ (Value.int start).display ++ "-" ++
          (Value.int (stop - 1 : Nat)).display) ++ ": " ++ reason
  | .xml what place =>
    what ++ ": line " ++ (Value.int place.line).display ++ ", column " ++
      (Value.int place.column).display
  | .notBytes kind => "a bytes-like object is required, not '" ++ kind ++ "'"
  | .patternText kind => "expected string or bytes-like object, got '" ++ kind ++ "'"
  | .unknownEncoding name => "unknown encoding: " ++ name
  | .notTextEncoding name direction =>
    "'" ++ name ++ "' is not a text encoding; use codecs." ++ direction ++
      "() to handle arbitrary codecs"
  | .charsetName kind => "encode() argument 'encoding' must be str, not " ++ kind
  | .wideEncoding => "multi-byte encodings are not supported"
  | .failingEncoding name reason =>
    "decoding with '" ++ name ++ "' codec failed (UnicodeError: " ++ reason ++ ")"
  | .urlText => "url must be a string"
  | .notRequest => "Expected an instance of Request"
  | .notIterable kind => "'" ++ kind ++ "' object is not iterable"
  | .pairLength index length =>
    "dictionary update sequence element #" ++ (Value.int index).display ++ " has length " ++
      (Value.int length).display ++ "; 2 is required"
  | .pairKind index =>
    "cannot convert dictionary update sequence element #" ++ (Value.int index).display ++
      " to a sequence"
  | .joinItem index kind =>
    "sequence item " ++ (Value.int index).display ++ ": expected str instance, " ++ kind ++
      " found"
  | .closed => "I/O operation on closed file."
  | .readCount kind => "argument should be integer or None, not '" ++ kind ++ "'"
  | .hugeCount => "cannot fit 'int' into an index-sized integer"
  | .unknownSource v => "Unknown format source " ++ v.literal
  | .frozenAssign field => "cannot assign to field " ++ (Value.str field).literal
  | .frozenDelete field => "cannot delete field " ++ (Value.str field).literal
  | .missingArguments callable names =>
    callable ++ " missing " ++ (Value.int names.length).display ++
      " required positional argument" ++ (if names.length == 1 then "" else "s") ++ ": " ++
      enumeration names
  | .unexpectedArgument callable name =>
    callable ++ " got an unexpected keyword argument '" ++ name ++ "'"
  | .repeatedArgument callable name =>
    callable ++ " got multiple values for argument '" ++ name ++ "'"
  | .tooManyArguments callable least most count =>
    callable ++ " takes " ++
      (if least == most then (Value.int most).display
        else "from " ++ (Value.int least).display ++ " to " ++ (Value.int most).display) ++
      " positional argument" ++ (if most == 1 then "" else "s") ++ " but " ++
      (Value.int count).display ++ (if count == 1 then " was" else " were") ++ " given"
  | .badSeverity v => v.literal ++ " is not a valid Severity"
  | .listIndex => "list index out of range"
  | .listAssignIndex => "list assignment index out of range"
  | .listKey kind => "list indices must be integers or slices, not " ++ kind
  | .textIndex => "string index out of range"
  | .textKey kind => "string indices must be integers, not '" ++ kind ++ "'"
  | .noSubscript kind => "'" ++ kind ++ "' object is not subscriptable"
  | .noAssign kind => "'" ++ kind ++ "' object does not support item assignment"
  | .noDelete kind => "'" ++ kind ++ "' object doesn't support item deletion"
  | .given .. | .notText | .missingKey _ => ""

/-- What a fault carries: what a collaborator gave it, or the sentence about its cause. -/
def arguments : Fault → List Value
  | .given _ arguments => arguments
  | .notText => []
  | .missingKey key => [key]
  | .undecodable encoding bytes start stop reason =>
    [.str encoding, .bytes bytes, .int start, .int stop, .str reason]
  | fault => [.str fault.sentence]

/-- The text of a system fault: its number in brackets before its description, and the names of
the files after it. -/
def systemMessage : List Value → Option String
  | [number, text] => some ("[Errno " ++ number.display ++ "] " ++ text.display)
  | [number, text, file] => some (about number text file none)
  | [number, text, file, _] => some (about number text file none)
  | [number, text, file, _, other] => some (about number text file (some other))
  | _ => none
where
  /-- The text with the names of the files, as far as they are given. -/
  about (number text file : Value) (other : Option Value) : String :=
    "[Errno " ++ number.display ++ "] " ++ text.display ++
      if file.isNull then ""
      else
        ": " ++ file.literal ++
          match other with
          | none | some .null => ""
          | some other => " -> " ++ other.literal

/-- The text of a fault that a collaborator brings. -/
def givenMessage (kind : FaultKind) (arguments : List Value) : String :=
  match (if kind.isSystem then systemMessage arguments else none) with
  | some text => text
  | none =>
    match arguments with
    | [] => ""
    | [v] => if kind == .key then v.literal else v.display
    | vs => (Value.tuple vs).literal

/-- The text of a fault. -/
def message : Fault → String
  | .given kind arguments => givenMessage kind arguments
  | .missingKey key => key.literal
  | fault => fault.sentence

/-- The arguments that a fault shows: of a system fault with file names, only the first two. -/
def shownArguments (fault : Fault) : List Value :=
  match fault with
  | .given kind (number :: text :: file :: rest) =>
    if kind.isSystem && !file.isNull && rest.length ≤ 2 then [number, text]
    else number :: text :: file :: rest
  | fault => fault.arguments

/-- The text that shows a fault inside another message: its class and what it carries. -/
def literal (fault : Fault) : String :=
  fault.kind.name ++ "(" ++
    String.ofList (Value.commas (fault.shownArguments.map Value.literalChars)) ++ ")"

/-- A system fault with these arguments, of the class that its error number belongs to. -/
def system (arguments : List Value) : Fault :=
  match arguments with
  | number :: _ :: rest =>
    if rest.length ≤ 3 then
      match number with
      | .int n => .given (FaultKind.ofErrorNumber n) arguments
      | _ => .given .system arguments
    else .given .system arguments
  | _ => .given .system arguments

/-- Whether the fault is one of failed input or output. -/
def isSystem (fault : Fault) : Bool :=
  fault.kind.isSystem

/-- Whether the fault is about the kind or the form of a value. -/
def isAboutValue (fault : Fault) : Bool :=
  fault.kind == .type || fault.kind.isValue

end Fault

end PlayerPage
