import Mathlib.Tactic.Common

/-! # Hostnames and addresses

The textual checks a peer address has to pass before a `UtpAddr` is built.
Strings are read as lists of characters.
-/

namespace Utp

namespace Util

/-- The number `parseInt` reads off the front, if the text starts with a digit.
A sign or leading blank makes the comparison with `toString` fail in any case. -/
def parseInt (part : List Char) : Option Nat :=
  match part.takeWhile Char.isDigit with
  | [] => none
  | digits => some (digits.foldl (fun number digit => number * 10 + (digit.toNat - 48)) 0)

def isIPv4 (hostname : String) : Bool :=
  let parts := hostname.toList.splitOn '.'
  parts.length = 4 && parts.all fun part =>
    match parseInt part with
    | none => false
    | some number => number ≤ 255 && part = (toString number).toList

/-- `/^[0-9a-fA-F]{1,4}$/` -/
def isHexGroup (part : List Char) : Bool :=
  0 < part.length && part.length ≤ 4 && part.all fun c =>
    c.isDigit || ('a' ≤ c && c ≤ 'f') || ('A' ≤ c && c ≤ 'F')

/-- `replace(/^\[|\]$/g, '')`: the two brackets go independently. -/
def stripBrackets (hostname : List Char) : List Char :=
  let opened := match hostname with
    | '[' :: rest => rest
    | text => text
  match opened.reverse with
  | ']' :: rest => rest.reverse
  | _ => opened

/-- `split('::')`, with the characters read since the last separator. -/
def splitDoubleColon : List Char → List Char → List (List Char)
  | current, ':' :: ':' :: rest => current.reverse :: splitDoubleColon [] rest
  | current, c :: rest => splitDoubleColon (c :: current) rest
  | current, [] => [current.reverse]

/-- `part ? part.split(':') : []` -/
def groupsOf (part : List Char) : List (List Char) :=
  if part = [] then [] else part.splitOn ':'

def isIPv6 (hostname : String) : Bool :=
  let hostname := stripBrackets hostname.toList
  match splitDoubleColon [] hostname with
  | [_] =>
      let parts := hostname.splitOn ':'
      parts.length = 8 && parts.all isHexGroup
  | [before, after] =>
      let groups := groupsOf before ++ groupsOf after
      groups.length ≤ 8 && groups.all isHexGroup
  | _ => false

/-- `/^[a-zA-Z0-9]([a-zA-Z0-9-]*[a-zA-Z0-9])?$/` with at most 63 characters. -/
def isLabel (label : List Char) : Bool :=
  label.length ≤ 63 && (label.head?.any Char.isAlphanum) && (label.getLast?.any Char.isAlphanum) &&
    label.all fun c => c.isAlphanum || c = '-'

/-- Leading, trailing and doubled dots show up as empty labels. -/
def isDomain (hostname : String) : Bool :=
  let labels := hostname.toList.splitOn '.'
  hostname.toList ≠ [] && hostname.toList.length ≤ 255 && 2 ≤ labels.length && labels.all isLabel

def isValidHostname (hostname : String) : Bool :=
  hostname ≠ "" && (hostname = "localhost" || isIPv4 hostname || isIPv6 hostname ||
    isDomain hostname)

end Util

/-- Ports are written as numerals. -/
instance portNumeral (port : Nat) : OfNat (Fin 65536) port where
  ofNat := Fin.ofNat 65536 port

/-- So are the numbers that `randomUn16Int` draws. -/
instance drawnNumeral (drawn : Nat) : OfNat (Fin 65535) drawn where
  ofNat := Fin.ofNat 65535 drawn

/-- A peer address; its constructor rejects bad ports and hostnames. -/
structure UtpAddr where
  port : Nat
  hostname : String
  port_le : port ≤ 65535
  hostname_valid : Util.isValidHostname hostname = true
  deriving DecidableEq

/-- An address as the runtime reports it. -/
inductive DenoAddr where
  | net (hostname : String) (port : Nat)
  | unix (path : String)
  deriving DecidableEq

namespace UtpAddr

def create (port : Nat) (hostname : String) : Except String UtpAddr :=
  if hport : port ≤ 65535 then
    if hhost : Util.isValidHostname hostname = true then
      .ok ⟨port, hostname, hport, hhost⟩
    else .error s!"invalid hostname: {hostname}"
  else .error s!"invalid port: {port}"

def fromDenoAddr : DenoAddr → Except String UtpAddr
  | .net hostname port => create port hostname
  | .unix _ => .error "invalid addr"

def localhost (port : Fin 65536) : UtpAddr where
  port := port
  hostname := "localhost"
  port_le := Nat.le_of_lt_succ port.isLt
  hostname_valid := by decide

def toString (addr : UtpAddr) : String := s!"{addr.hostname}:{addr.port}"

end UtpAddr

end Utp
