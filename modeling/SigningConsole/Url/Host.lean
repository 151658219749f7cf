import SigningConsole.Text.Decimal
import SigningConsole.Url.Name
/-!
Hosts: names, IPv4 and IPv6 addresses, read as the URL Standard asks and written in
their shortest form.

A name is kept in its form in ASCII. One whose last label is a number must be an IPv4 address.
-/

namespace SigningConsole.Url

open Text

/-- A host. -/
inductive Host where
  | name (text : String)
  | ipv4 (address : Nat)
  /-- Eight pieces of sixteen bits. -/
  | ipv6 (pieces : List Nat)
deriving DecidableEq, Repr

/-- Why a text is no URL. -/
inductive Fault where
  | emptyHost
  | badName
  | badPort
  | badIpv4
  | badIpv6
  | badHostCharacter
  | relativeWithoutBase
  | relativeToRootless
deriving DecidableEq, Repr

/-- The wording of a cause. -/
def Fault.message : Fault → String
  | emptyHost => "empty host"
  | badName => "invalid international domain name"
  | badPort => "invalid port number"
  | badIpv4 => "invalid IPv4 address"
  | badIpv6 => "invalid IPv6 address"
  | badHostCharacter => "invalid domain character"
  | relativeWithoutBase => "relative URL without a base"
  | relativeToRootless => "relative URL with a cannot-be-a-base base"

namespace Host

/-! ## IPv4 -/

/-- The value of digits in a base. -/
def numberIn? (base : Nat) (cs : List Char) : Option Nat :=
  cs.foldlM (fun n c => (hexDigit? c).bind fun d => if d < base then some (n * base + d) else none)
    0

/-- One part of an IPv4 address: decimal, octal after `0`, hexadecimal after `0x`. -/
def ipv4Part? : List Char → Option Nat
  | [] => none
  | '0' :: 'x' :: cs => numberIn? 16 cs
  | '0' :: 'X' :: cs => numberIn? 16 cs
  | '0' :: cs => numberIn? 8 cs
  | cs => numberIn? 10 cs

/-- The labels of a name, without an empty last one. -/
def ipv4Labels (cs : List Char) : List (List Char) :=
  let labels := splitAll '.' cs
  if labels.getLast? = some [] ∧ 1 < labels.length then labels.dropLast else labels

/-- Whether the last label of a name is a number, so that the name must be an IPv4 address. -/
def endsInNumber (cs : List Char) : Bool :=
  match (ipv4Labels cs).getLast? with
  | none => false
  | some label =>
    (!label.isEmpty && label.all Char.isDigit) ||
      match label with
      | '0' :: 'x' :: cs => cs.all fun c => (hexDigit? c).isSome
      | '0' :: 'X' :: cs => cs.all fun c => (hexDigit? c).isSome
      | _ => false

/-- The address of the parts: all but the last are bytes, the last fills what remains. -/
def ipv4Address? (parts : List Nat) : Option Nat :=
  match parts.reverse with
  | [] => none
  | last :: before =>
    let bytes := before.reverse
    if 3 < bytes.length ∨ bytes.any (255 < ·) ∨ Nat.pow 256 (4 - bytes.length) ≤ last then none
    else some (bytes.zipIdx.foldl (fun n (b, i) => n + b * Nat.pow 256 (3 - i)) last)

/-- Reads an IPv4 address. -/
def parseIpv4 (cs : List Char) : Except Fault Nat :=
  let labels := ipv4Labels cs
  if 4 < labels.length then .error .badIpv4
  else
    match (labels.mapM ipv4Part?).bind ipv4Address? with
    | some n => .ok n
    | none => .error .badIpv4

/-! ## IPv6 -/

/-- How far the reader of an IPv6 address has got. -/
structure Pieces where
  /-- The pieces read so far. -/
  pieces : List Nat
  /-- How many pieces stand before the run of zeros that `::` leaves out. -/
  gap : Option Nat

/-- Reads up to four hexadecimal digits. -/
def hexPiece (cs : List Char) : Nat × List Char × List Char :=
  let ds := (cs.take 4).takeWhile fun c => (hexDigit? c).isSome
  ((numberIn? 16 ds).getD 0, ds, cs.drop ds.length)

/-- One byte of an IPv4 address at the end of an IPv6 address: no leading zeros. -/
def byte? (cs : List Char) : Option Nat :=
  match cs with
  | ['0'] => some 0
  | c :: _ => if c.isDigit ∧ c ≠ '0' then (readDigits? cs).filter (· ≤ 255) else none
  | [] => none

/-- The two pieces of an IPv4 address in dotted form. -/
def dotted? (cs : List Char) : Option (List Nat) :=
  match (splitAll '.' cs).mapM byte? with
  | some [a, b, c, d] => some [a * 256 + b, c * 256 + d]
  | _ => none

/-- Reads the pieces of an IPv6 address; `fuel` bounds their number. -/
def readPieces : Nat → Pieces → List Char → Option Pieces
  | _, p, [] => some p
  | 0, _, _ => none
  | fuel + 1, p, cs =>
    if p.pieces.length = 8 then none
    else
      match cs with
      | ':' :: cs =>
        if p.gap.isSome then none else readPieces fuel { p with gap := some p.pieces.length } cs
      | cs =>
        let (n, ds, rest) := hexPiece cs
        match rest with
        | '.' :: _ =>
          if ds.isEmpty ∨ 6 < p.pieces.length then none
          else (dotted? cs).map fun two => { p with pieces := p.pieces ++ two }
        | ':' :: rest =>
          if rest.isEmpty then none else readPieces fuel { p with pieces := p.pieces ++ [n] } rest
        | [] => some { p with pieces := p.pieces ++ [n] }
        | _ => none

/-- Puts the zeros that `::` leaves out in their place. -/
def Pieces.expand? (p : Pieces) : Option (List Nat) :=
  match p.gap with
  | some g =>
    if p.pieces.length < 8 then
      some (p.pieces.take g ++ List.replicate (8 - p.pieces.length) 0 ++ p.pieces.drop g)
    else none
  | none => if p.pieces.length = 8 then some p.pieces else none

/-- Reads an IPv6 address without its brackets. -/
def parseIpv6 (cs : List Char) : Except Fault (List Nat) :=
  let read : Option Pieces :=
    match cs with
    | ':' :: ':' :: rest => readPieces 9 ⟨[], some 0⟩ rest
    | ':' :: _ => none
    | cs => readPieces 9 ⟨[], none⟩ cs
  match read.bind Pieces.expand? with
  | some pieces => .ok pieces
  | none => .error .badIpv6

/-- The length of the run of zeros at the front. -/
def zeroRun (pieces : List Nat) : Nat := (pieces.takeWhile (· == 0)).length

/-- The place and length of the first longest run of zeros. -/
def longestZeroRun : Nat → List Nat → Nat × Nat
  | _, [] => (0, 0)
  | i, p :: ps =>
    let here := zeroRun (p :: ps)
    let (j, n) := longestZeroRun (i + 1) ps
    if n ≤ here then (i, here) else (j, n)

/-- An IPv6 address: the first longest run of two or more zeros is left out. -/
def ipv6Chars (pieces : List Nat) : List Char :=
  let hex (ps : List Nat) := joinAll [':'] (ps.map hexadecimal)
  let (i, n) := longestZeroRun 0 pieces
  if n < 2 then hex pieces else hex (pieces.take i) ++ [':', ':'] ++ hex (pieces.drop (i + n))

/-! ## Hosts -/

/-- Reads the host of a special scheme. -/
def parse (cs : List Char) : Except Fault Host :=
  match cs with
  | '[' :: rest =>
    if rest.getLast? = some ']' then (parseIpv6 rest.dropLast).map ipv6 else .error .badIpv6
  | cs =>
    match (Utf8.decode? (decode cs)).bind Name.ascii? with
    | none => .error .badName
    | some [] => .error .emptyHost
    | some ascii =>
      if endsInNumber ascii then (parseIpv4 ascii).map ipv4 else .ok (name (String.ofList ascii))

/-- What may not stand in the host of another scheme. -/
def isForbiddenElsewhere (c : Char) : Bool :=
  c == '\x00' || c == '\t' || c == '\n' || c == '\r' || c == ' ' || c == '#' || c == '/' ||
    c == ':' || c == '<' || c == '>' || c == '?' || c == '@' || c == '[' || c == '\\' ||
    c == ']' || c == '^' || c == '|'

/-- Reads the host of a scheme that is not special: any text, percent-encoded. -/
def parseElsewhere (cs : List Char) : Except Fault Host :=
  match cs with
  | '[' :: rest =>
    if rest.getLast? = some ']' then (parseIpv6 rest.dropLast).map ipv6 else .error .badIpv6
  | cs =>
    if cs.any isForbiddenElsewhere then .error .badHostCharacter
    else .ok (name (String.ofList (encode isControl cs)))

/-- The text of a host. -/
def chars : Host → List Char
  | name text => text.toList
  | ipv4 n =>
    joinAll ['.'] ([n / 0x1000000, n / 0x10000 % 256, n / 0x100 % 256, n % 256].map decimal)
  | ipv6 pieces => '[' :: (ipv6Chars pieces ++ [']'])

end Host

end SigningConsole.Url
