import ApiSite.Text.LetterCase
import ApiSite.Text.Decomposition

/-!
The parts of an address that decide where it leads: its scheme and the name of its host. An address
whose host part cannot be read has neither.
-/

set_option autoImplicit false

namespace ApiSite

/-- Where an address leads. -/
structure Url where
  scheme : Text
  host : Text
  deriving DecidableEq, Repr

namespace Url

/-- Control characters and the space, which may stand in front of an address. -/
def isLeading (c : Char) : Bool := c.toNat ≤ 0x20

/-- Characters that are passed over anywhere in an address. -/
def isIgnored (c : Char) : Bool := c == '\t' || c == '\r' || c == '\n'

def isSchemeChar (c : Char) : Bool := c.isAlphanum || c == '+' || c == '-' || c == '.'

/-- The scheme in front of an address, and what follows its colon. -/
def splitScheme (t : Text) : Text × Text :=
  match Text.cut? ":" t with
  | some (name, rest) =>
    match name with
    | c :: _ =>
      if c.isAlpha && name.all isSchemeChar then (name.map Char.toLower, rest) else ([], t)
    | [] => ([], t)
  | none => ([], t)

/-- The characters that end the host part. -/
def endsAuthority (c : Char) : Bool := c == '/' || c == '?' || c == '#'

/-- A number of an address of four numbers: at most 255, without zeros in front. -/
def isOctet (t : Text) : Bool :=
  match Text.toNat? t with
  | some n => t.length ≤ 3 && n ≤ 255 && (t == ['0'] || t.head? != some '0')
  | none => false

/-- Four numbers with dots between them. -/
def isFourNumbers (t : Text) : Bool :=
  let parts := Text.splitOn '.' t
  parts.length == 4 && parts.all isOctet

def isHex (c : Char) : Bool := c.isDigit || ('a' ≤ c && c ≤ 'f') || ('A' ≤ c && c ≤ 'F')

/-- A group of at most four hexadecimal digits. -/
def isGroup (t : Text) : Bool := !t.isEmpty && t.length ≤ 4 && t.all isHex

/-- The groups of an address, where four numbers at the end count as two groups. -/
def groups? (t : Text) : Option (List Text) :=
  let parts := Text.splitOn ':' t
  if parts.length < 3 then none
  else
    match parts.getLast? with
    | some last =>
      if last.contains '.' then
        if isFourNumbers last then some (parts.dropLast ++ [['0'], ['0']]) else none
      else some parts
    | none => none

/-- The groups on one side of a gap: an empty one may stand at the outer end only by itself. -/
def sideOf? : List Text → Option Nat
  | [[]] => some 0
  | side => if side.all isGroup then some side.length else none

/-- Eight groups, or fewer with one gap that stands for groups of zeros. -/
def isGroups (parts : List Text) : Bool :=
  let inner := (parts.drop 1).dropLast
  match inner.findIdx? List.isEmpty with
  | none => parts.length == 8 && parts.all isGroup
  | some i =>
    match sideOf? (parts.take (i + 1)), sideOf? (parts.drop (i + 2)) with
    | some before, some after => before + after < 8
    | _, _ => false

/-- An address of groups, with or without a zone. -/
def isNumericHost (t : Text) : Bool :=
  let (address, zone) := match Text.cut? "%" t with
    | some (address, zone) => (address, some zone)
    | none => (t, none)
  let zoneOk := match zone with
    | some z => !z.isEmpty && !z.contains '%'
    | none => true
  zoneOk && ((groups? address).map isGroups).getD false

/-- A host of a future form: a version and something after a dot. -/
def isFutureHost (t : Text) : Bool :=
  let version := t.takeWhile isHex
  match t.drop version.length with
  | '.' :: _ :: _ => !version.isEmpty
  | _ => false

/-- A host that may stand in brackets. -/
def isBracketedHost : Text → Bool
  | 'v' :: t => isFutureHost t
  | t => isNumericHost t

/-- Whether brackets in a host part are paired and hold an address. -/
def bracketsAgree (authority : Text) : Bool :=
  match authority.contains '[', authority.contains ']' with
  | false, false => true
  | true, true =>
    let inside := ((authority.dropWhile (· != '[')).drop 1).takeWhile (· != ']')
    isBracketedHost inside
  | _, _ => false

/-- Whether a host part stays one when its characters are replaced by their plain forms. -/
def staysWhole (authority : Text) : Bool :=
  let delimiters : Text := "/?#@:"
  authority.all (·.toNat < 128) ||
    !(Text.decompose (authority.filter fun c => !("@:#?" : Text).contains c)).any
      delimiters.contains

/-- What follows the last `@`. -/
def afterUser (authority : Text) : Text := (authority.reverse.takeWhile (· != '@')).reverse

/-- The name of the host, in lower case. -/
def hostOf (authority : Text) : Text :=
  let host := afterUser authority
  Text.lower (if host.contains '[' then ((host.dropWhile (· != '[')).drop 1).takeWhile (· != ']')
    else host.takeWhile (· != ':'))

/-- Reads an address. -/
def ofText? (t : Text) : Option Url :=
  let t := (t.dropWhile isLeading).filter fun c => !isIgnored c
  let (scheme, rest) := splitScheme t
  match rest with
  | '/' :: '/' :: rest =>
    let authority := rest.takeWhile fun c => !endsAuthority c
    if bracketsAgree authority && staysWhole authority then some ⟨scheme, hostOf authority⟩
    else none
  | _ => some ⟨scheme, []⟩

end Url

end ApiSite
