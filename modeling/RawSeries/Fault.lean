import RawSeries.Bytes.Base64
import RawSeries.Calendar.Stamp
import RawSeries.Column.Compacted
import RawSeries.Directory.Kind
import RawSeries.FileTree
import RawSeries.Gateway.Address
import RawSeries.Query.Aggregator
import RawSeries.Row.Key
import RawSeries.Text.Markup

namespace RawSeries

namespace Query

/-- Why words are no query. -/
inductive Flaw where
  | noStart
  | noQuery
  /-- The words end where `what` has to follow. -/
  | missing (what : String)
  | unknownAggregator (name : String)
  | badTagFilter (word : String)
  | badDuration (text : String)
  | shortDuration (text : String)
  | badDate (text : String)
  | reversed (stop start : Int)

def Flaw.message : Flaw → String
  | .noStart => "Missing start date"
  | .noQuery => "Missing query: expected AGG METRIC after the dates"
  | .missing what => "Missing " ++ what ++ " at the end of the query"
  | .unknownAggregator name =>
      "Unknown aggregator " ++ Quoted.text name ++ ", expected one of " ++
        String.intercalate ", " (Aggregator.all.map Aggregator.word)
  | .badTagFilter word => "Invalid tag filter " ++ Quoted.text word ++ ", expected tagk=value"
  | .badDuration text =>
      "Invalid duration (need <number><unit>, unit one of ms s m h d w n y): " ++ Quoted.text text
  | .shortDuration text => "Duration must be at least one second: " ++ Quoted.text text
  | .badDate text => "Invalid date: " ++ Quoted.text text
  | .reversed stop start =>
      "End time " ++ Numeral.integer stop ++ " is before start time " ++ Numeral.integer start

end Query

namespace Store

/-- Why a store does not do what it is asked. -/
inductive Flaw where
  | deleteRefused (key : Bytes)
  | openRefused (metric : String)
  | retriesExhausted (method path : String)
  | noLocation (table : String) (status : Int)
  | keyNotText (key : Bytes)
  | keyEndsInStar (key : Bytes)

def Flaw.message : Flaw → String
  | .deleteRefused key => "delete refused for " ++ Bytes.listing key
  | .openRefused metric => "open refused for " ++ metric
  | .retriesExhausted method path => "Retries exhausted for " ++ method ++ " " ++ path
  | .noLocation table status =>
      "Scanner on " ++ table ++ " created without a Location header (HTTP " ++
        Numeral.integer status ++ ")"
  | .keyNotText key =>
      "Row key " ++ Bytes.listing key ++
        " is not addressable through the REST gateway (not UTF-8)"
  | .keyEndsInStar key =>
      "Row key " ++ Bytes.listing key ++
        " is not addressable through the REST gateway (ends in '*')"

end Store

/-- Numbers that a step of a computation does not accept. -/
inductive NumberFlaw where
  /-- Digit signs that are no decimal digits. -/
  | notDecimal (text : String)
  /-- More digits than a number may have. -/
  | tooManyDigits (count : Nat)
  | quotientTooLarge
  | wholeTooLarge
  | notANumber
  | infinite
  /-- A negative time in a row key. -/
  | negativeTime
  /-- A time that the bytes of a row key do not hold. -/
  | longTime
  /-- Tags of no width, one after the other. -/
  | noStep
deriving DecidableEq

/-- The most characters of a quoted text that a report shows. -/
def shownLength : Nat := 200

def NumberFlaw.message : NumberFlaw → String
  | .notDecimal text =>
      "invalid literal for int() with base 10: " ++
        String.ofList ((Quoted.text text).toList.take shownLength)
  | .tooManyDigits count =>
      "Exceeds the limit (4300 digits) for integer string conversion: value has " ++
        Numeral.natural count ++
        " digits; use sys.set_int_max_str_digits() to increase the limit"
  | .quotientTooLarge => "integer division result too large for a float"
  | .wholeTooLarge => "int too large to convert to float"
  | .notANumber => "cannot convert float NaN to integer"
  | .infinite => "cannot convert float infinity to integer"
  | .negativeTime => "can't convert negative int to unsigned"
  | .longTime => "int too big to convert"
  | .noStep => "range() arg 3 must not be zero"

/-- Answers of a gateway that do not have the shape of a set of cells. -/
inductive ShapeFlaw where
  /-- A value that should have fields has none to ask for. -/
  | notAnObject
  /-- A value that should hold items holds none. -/
  | notAList
  /-- A cell that is no object. -/
  | notACell
  | missingField (name : String)
  | notText
deriving DecidableEq

inductive Fault where
  | point (flaw : Point.Flaw)
  | compaction (flaw : Compacted.Flaw)
  | key (flaw : Key.Flaw)
  | calendar (flaw : Calendar.Flaw)
  | unknownUid (kind : UidKind) (uid : Bytes)
  | unknownName (kind : UidKind) (name : String)
  /-- A fault of the data in a column of a row. -/
  | inColumn (key : Bytes) (column : Column) (cause : Fault)
  /-- A fault of the data in the key of a row. -/
  | inKey (key : Bytes) (cause : Fault)
  | query (flaw : Query.Flaw)
  | number (flaw : NumberFlaw)
  | store (flaw : Store.Flaw)
  /-- A status that is no success, and its address. -/
  | status (code : Int) (address : String)
  | base64 (flaw : Base64.Flaw)
  | shape (flaw : ShapeFlaw)
  /-- The body of an answer is no JSON. -/
  | body
  /-- The body of an answer is said to be packed and is not. -/
  | notPacked
  /-- JSON that is nested too deeply. -/
  | depth
  /-- The body of an answer is no text. -/
  | garbled
  | address (flaw : Gateway.Address.Flaw)
  /-- The place that an answer sends its reader to is no address. -/
  | move (flaw : Gateway.Address.Flaw)
  /-- An address without a scheme, which cannot be asked. -/
  | noScheme (address : String)
  /-- A header that is not in ASCII. -/
  | header (text : String)
  /-- A name that the one-byte character set cannot write. -/
  | unwritableName (name : String)
  /-- A file that is not UTF-8. -/
  | unreadableFile
  | file (flaw : FileTree.Flaw) (path : String)
  /-- Fields that make no record. -/
  | noRecord
  | markup (flaw : Markup.Flaw)
  /-- The connection to the gateway was given up. -/
  | disconnected
  | recordRefused (metric status : String)

namespace Fault

/-- Kinds of faults, as reports and callers tell them apart. -/
inductive Kind where
  | resolution | illegalData | malformedColumn | query | store
  | index | value | overflow | division | system | encoding | decoding | missingField | type
  | attribute | base64 | json | recursion | fileNotFound | isFolder | notFolder | fileExists
  | refusal | status | address | protocol | packing | markup
deriving DecidableEq

def Kind.word : Kind → String
  | .resolution => "ResolutionError"
  | .illegalData => "IllegalDataError"
  | .malformedColumn => "MalformedColumnError"
  | .query => "QueryError"
  | .store => "StoreError"
  | .index => "IndexError"
  | .value => "ValueError"
  | .overflow => "OverflowError"
  | .division => "ZeroDivisionError"
  | .system => "OSError"
  | .encoding => "UnicodeEncodeError"
  | .decoding => "UnicodeDecodeError"
  | .missingField => "KeyError"
  | .type => "TypeError"
  | .attribute => "AttributeError"
  | .base64 => "Error"
  | .json => "JSONDecodeError"
  | .recursion => "RecursionError"
  | .fileNotFound => "FileNotFoundError"
  | .isFolder => "IsADirectoryError"
  | .notFolder => "NotADirectoryError"
  | .fileExists => "FileExistsError"
  | .refusal => "RuntimeError"
  | .status => "HTTPStatusError"
  | .address => "InvalidURL"
  | .protocol => "RemoteProtocolError"
  | .packing => "DecodingError"
  | .markup => "MarkupError"

/-- Faults of queries, data, names and stores, which are explained to the user. -/
def Kind.isExplained : Kind → Bool
  | .resolution | .illegalData | .malformedColumn | .query | .store => true
  | _ => false

def kindOfPath : FileTree.Flaw → Kind
  | .missing => .fileNotFound
  | .isFolder => .isFolder
  | .notFolder => .notFolder
  | .taken => .fileExists
  | .longName => .system
  | .zero => .value

/-- The kind of a fault. The place where it arises does not change it. -/
def kind : Fault → Kind
  | .point .missingByte => .index
  | .point _ => .illegalData
  | .compaction _ => .malformedColumn
  | .key .noTagWidth => .division
  | .key _ => .illegalData
  | .calendar .year => .value
  | .calendar .longYear => .system
  | .calendar .seconds => .overflow
  | .unknownUid .. => .resolution
  | .unknownName .. => .resolution
  | .inColumn _ _ cause => cause.kind
  | .inKey _ cause => cause.kind
  | .query _ => .query
  | .number (.notDecimal _) => .value
  | .number (.tooManyDigits _) => .value
  | .number .notANumber => .value
  | .number .noStep => .value
  | .number _ => .overflow
  | .store _ => .store
  | .status .. => .status
  | .base64 .notAscii => .value
  | .base64 .incomplete => .base64
  | .shape .notAnObject => .attribute
  | .shape .notAList => .type
  | .shape .notACell => .type
  | .shape (.missingField _) => .missingField
  | .shape .notText => .type
  | .body => .json
  | .notPacked => .packing
  | .depth => .recursion
  | .garbled => .decoding
  | .address _ => .address
  | .move _ => .protocol
  | .noScheme _ => .value
  | .header _ => .encoding
  | .unwritableName _ => .encoding
  | .unreadableFile => .decoding
  | .file flaw _ => kindOfPath flaw
  | .noRecord => .type
  | .markup .noShare => .value
  | .markup _ => .markup
  | .disconnected => .refusal
  | .recordRefused .. => .refusal

/-- Faults of stored data and of names: they are reported with the row they were met in. -/
def isAboutData (f : Fault) : Bool :=
  match f.kind with
  | .illegalData | .malformedColumn | .resolution => true
  | _ => false

def wherePlace (key : Bytes) : String :=
  "row key " ++ Bytes.signedListing key

def whereColumn (key : Bytes) (c : Column) : String :=
  wherePlace key ++ ", column " ++ Bytes.signedListing c.qualifier ++ "=" ++
    Bytes.signedListing c.value

def statusPhrases : List (Int × String) :=
  [(100, "Continue"), (101, "Switching Protocols"), (102, "Processing"), (103, "Early Hints"),
    (200, "OK"), (201, "Created"), (202, "Accepted"), (203, "Non-Authoritative Information"),
    (204, "No Content"), (205, "Reset Content"), (206, "Partial Content"), (207, "Multi-Status"),
    (208, "Already Reported"), (226, "IM Used"), (300, "Multiple Choices"),
    (301, "Moved Permanently"), (302, "Found"), (303, "See Other"), (304, "Not Modified"),
    (305, "Use Proxy"), (307, "Temporary Redirect"), (308, "Permanent Redirect"),
    (400, "Bad Request"), (401, "Unauthorized"), (402, "Payment Required"), (403, "Forbidden"),
    (404, "Not Found"), (405, "Method Not Allowed"), (406, "Not Acceptable"),
    (407, "Proxy Authentication Required"), (408, "Request Timeout"), (409, "Conflict"),
    (410, "Gone"), (411, "Length Required"), (412, "Precondition Failed"),
    (413, "Request Entity Too Large"), (414, "Request-URI Too Long"),
    (415, "Unsupported Media Type"), (416, "Requested Range Not Satisfiable"),
    (417, "Expectation Failed"), (418, "I'm a teapot"), (421, "Misdirected Request"),
    (422, "Unprocessable Entity"), (423, "Locked"), (424, "Failed Dependency"), (425, "Too Early"),
    (426, "Upgrade Required"), (428, "Precondition Required"), (429, "Too Many Requests"),
    (431, "Request Header Fields Too Large"), (451, "Unavailable For Legal Reasons"),
    (500, "Internal Server Error"), (501, "Not Implemented"), (502, "Bad Gateway"),
    (503, "Service Unavailable"), (504, "Gateway Timeout"), (505, "HTTP Version Not Supported"),
    (506, "Variant Also Negotiates"), (507, "Insufficient Storage"), (508, "Loop Detected"),
    (510, "Not Extended"), (511, "Network Authentication Required")]

def statusClasses : List (Int × String) :=
  [(1, "Informational response"), (3, "Redirect response"), (4, "Client error"),
    (5, "Server error")]

/-- What is reported for a status that is no success. -/
def statusMessage (code : Int) (address : String) : String :=
  (statusClasses.lookup (Int.fdiv code 100)).getD "Invalid status code" ++ " '" ++
    Numeral.integer code ++ " " ++ (statusPhrases.lookup code).getD "" ++ "' for url '" ++
    address ++ "'"

def message : Fault → String
  | .point flaw => flaw.message
  | .compaction flaw => flaw.message
  | .key flaw => flaw.message
  | .calendar .year => "year is out of range"
  | .calendar .longYear => "value too large for the calendar"
  | .calendar .seconds => "timestamp out of range"
  | .unknownUid kind uid =>
      "No such unique ID for '" ++ kind.word ++ "': " ++ Bytes.listing uid
  | .unknownName kind name => "No such name for '" ++ kind.word ++ "': '" ++ name ++ "'"
  | .inColumn rowKey column (.compaction flaw) =>
      "Malformed compacted column in " ++ whereColumn rowKey column ++ ": " ++ flaw.message
  | .inColumn rowKey column cause =>
      "Unable to parse row: " ++ whereColumn rowKey column ++ ": " ++ cause.message
  | .inKey rowKey cause => cause.message ++ " (" ++ wherePlace rowKey ++ ")"
  | .query flaw => flaw.message
  | .number flaw => flaw.message
  | .store flaw => flaw.message
  | .status code asked => statusMessage code asked
  | .base64 .notAscii => "string argument should contain only ASCII characters"
  | .base64 .incomplete => "Incorrect padding"
  | .shape (.missingField name) => Quoted.text name
  | .shape _ => "unexpected shape"
  | .body => "no JSON"
  | .notPacked => "Error -3 while decompressing data: incorrect header check"
  | .depth => "maximum recursion depth exceeded while decoding a JSON text"
  | .garbled => "not UTF-8"
  | .address flaw => flaw.message
  | .move flaw => "Invalid URL in location header: " ++ flaw.message ++ "."
  | .noScheme asked => "unknown url type: " ++ Quoted.text asked
  | .header text => "unwritable header " ++ Quoted.text text
  | .unwritableName name => "unwritable name " ++ Quoted.text name
  | .unreadableFile => "not UTF-8"
  | .file flaw path => flaw.message path
  | .noRecord => "unexpected fields of a record"
  | .markup flaw => flaw.message
  | .disconnected => "Cannot send a request, as the client has been closed."
  | .recordRefused metric step => "manifest refused " ++ metric ++ " " ++ step

def line (f : Fault) : String :=
  f.kind.word ++ ": " ++ f.message

end Fault

end RawSeries
