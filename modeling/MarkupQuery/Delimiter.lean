import MarkupQuery.Bytes

/-!
Where a construct ends: offsets of delimiters counted from the head of the bytes. A tag ends at
the first `>` outside quotes, a document type declaration at the first `>` that is outside
quotes and outside its bracketed subset.
-/
namespace MarkupQuery.Delimiter

/-- Offset of the first occurrence of `needle`; the empty needle is found at once. -/
def sequence? (needle : Bytes) : Bytes → Option Nat
  | [] => if needle.isEmpty then some 0 else none
  | b :: rest =>
    if needle.isPrefixOf (b :: rest) then some 0 else (sequence? needle rest).map (· + 1)

def isQuote (b : UInt8) : Bool := b == 0x22 || b == 0x27

/-- Offset of the closing `>`, where `quote` is the quotation mark still open. -/
def tagEndFrom? (quote : Option UInt8) : Bytes → Option Nat
  | [] => none
  | b :: rest =>
    match quote with
    | some q => (tagEndFrom? (if b == q then none else some q) rest).map (· + 1)
    | none =>
      if b == 0x3e then some 0
      else (tagEndFrom? (if isQuote b then some b else none) rest).map (· + 1)

/-- Offset of the first `>` that no quotes enclose. -/
def tagEnd? (bytes : Bytes) : Option Nat := tagEndFrom? none bytes

/-- Offset of the closing `>`, where `quote` is the quotation mark still open and `depth` the
number of brackets still open. -/
def doctypeEndFrom? (quote : Option UInt8) (depth : Nat) : Bytes → Option Nat
  | [] => none
  | b :: rest =>
    match quote with
    | some q => (doctypeEndFrom? (if b == q then none else some q) depth rest).map (· + 1)
    | none =>
      if isQuote b then (doctypeEndFrom? (some b) depth rest).map (· + 1)
      else if b == 0x5b then (doctypeEndFrom? none (depth + 1) rest).map (· + 1)
      else if b == 0x5d then (doctypeEndFrom? none (depth - 1) rest).map (· + 1)
      else if b == 0x3e && depth == 0 then some 0
      else (doctypeEndFrom? none depth rest).map (· + 1)

/-- Offset of the first `>` outside quotes and brackets. -/
def doctypeEnd? (bytes : Bytes) : Option Nat := doctypeEndFrom? none 0 bytes

end MarkupQuery.Delimiter
