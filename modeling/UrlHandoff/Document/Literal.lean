import UrlHandoff.Document.Reader

namespace UrlHandoff.Document

def isBasicChar (c : Char) : Bool := isCommentChar c && c != '"' && c != '\\'

def isLiteralChar (c : Char) : Bool := isCommentChar c && c != '\''

def escapedChar? : Char → Option Char
  | 'b' => some '\x08'
  | 't' => some '\t'
  | 'n' => some '\n'
  | 'f' => some '\x0c'
  | 'r' => some '\r'
  | '"' => some '"'
  | '\\' => some '\\'
  | _ => none

def codePoint? (digits : List Char) : Option Char :=
  let value := numberOf 16 digits
  if digits.all (isDigitIn 16) ∧ value.isValidChar then some (Char.ofNat value) else none

def consChar (c : Char) (read : Option (List Char × List Char)) :
    Option (List Char × List Char) :=
  read.map fun (body, rest) => (c :: body, rest)

def basicBody : Reader (List Char)
  | '"' :: rest => some ([], rest)
  | '\\' :: 'u' :: a :: b :: c :: d :: rest =>
    (codePoint? [a, b, c, d]).bind fun e => consChar e (basicBody rest)
  | '\\' :: 'U' :: a :: b :: c :: d :: e :: f :: g :: h :: rest =>
    (codePoint? [a, b, c, d, e, f, g, h]).bind fun e => consChar e (basicBody rest)
  | '\\' :: c :: rest => (escapedChar? c).bind fun e => consChar e (basicBody rest)
  | c :: rest => if isBasicChar c then consChar c (basicBody rest) else none
  | [] => none

def literalBody : Reader (List Char)
  | '\'' :: rest => some ([], rest)
  | c :: rest => if isLiteralChar c then consChar c (literalBody rest) else none
  | [] => none

/-- The body of a string of three double quotes. The flag is set after a backslash at the end of a
line: blanks and line ends are then dropped up to the next other character. -/
def multilineBasicBody : Bool → Reader (List Char)
  | true, ' ' :: rest => multilineBasicBody true rest
  | true, '\t' :: rest => multilineBasicBody true rest
  | true, '\n' :: rest => multilineBasicBody true rest
  | true, '\r' :: '\n' :: rest => multilineBasicBody true rest
  | _, '"' :: '"' :: '"' :: '"' :: '"' :: rest => some (['"', '"'], rest)
  | _, '"' :: '"' :: '"' :: '"' :: rest => some (['"'], rest)
  | _, '"' :: '"' :: '"' :: rest => some ([], rest)
  | _, '"' :: rest => consChar '"' (multilineBasicBody false rest)
  | _, '\\' :: 'u' :: a :: b :: c :: d :: rest =>
    (codePoint? [a, b, c, d]).bind fun e => consChar e (multilineBasicBody false rest)
  | _, '\\' :: 'U' :: a :: b :: c :: d :: e :: f :: g :: h :: rest =>
    (codePoint? [a, b, c, d, e, f, g, h]).bind fun e =>
      consChar e (multilineBasicBody false rest)
  | _, '\\' :: c :: rest =>
    if endsBlank (c :: rest) then multilineBasicBody true (c :: rest)
    else (escapedChar? c).bind fun e => consChar e (multilineBasicBody false rest)
  | _, '\n' :: rest => consChar '\n' (multilineBasicBody false rest)
  | _, '\r' :: '\n' :: rest => consChar '\n' (multilineBasicBody false rest)
  | _, c :: rest => if isBasicChar c then consChar c (multilineBasicBody false rest) else none
  | _, [] => none

def multilineLiteralBody : Reader (List Char)
  | '\'' :: '\'' :: '\'' :: '\'' :: '\'' :: rest => some (['\'', '\''], rest)
  | '\'' :: '\'' :: '\'' :: '\'' :: rest => some (['\''], rest)
  | '\'' :: '\'' :: '\'' :: rest => some ([], rest)
  | '\'' :: rest => consChar '\'' (multilineLiteralBody rest)
  | '\n' :: rest => consChar '\n' (multilineLiteralBody rest)
  | '\r' :: '\n' :: rest => consChar '\n' (multilineLiteralBody rest)
  | c :: rest => if isLiteralChar c then consChar c (multilineLiteralBody rest) else none
  | [] => none

def skipNewline (s : List Char) : List Char := (newline? s).getD s

def singleLineString : Reader String
  | '"' :: rest => (basicBody rest).map fun (body, rest) => (String.ofList body, rest)
  | '\'' :: rest => (literalBody rest).map fun (body, rest) => (String.ofList body, rest)
  | _ => none

def string : Reader String
  | '"' :: '"' :: '"' :: rest =>
    (multilineBasicBody false (skipNewline rest)).map fun (body, rest) =>
      (String.ofList body, rest)
  | '\'' :: '\'' :: '\'' :: rest =>
    (multilineLiteralBody (skipNewline rest)).map fun (body, rest) => (String.ofList body, rest)
  | s => singleLineString s

end UrlHandoff.Document
