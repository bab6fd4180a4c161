import Cmput313.Lib.BlockHash
import Mathlib.Data.List.FinRange
import Mathlib.Tactic.Common

/-!
# The secure hash of the router

`sha1.c`: the context, its three functions and the two that they call.  A write outside of
`Message_Block` has no meaning.
-/

set_option autoImplicit false

namespace Cmput313.Router.Sha1

structure Words where
  a : UInt32
  b : UInt32
  c : UInt32
  d : UInt32
  e : UInt32
  deriving DecidableEq

structure Sha1Context where
  messageDigest : Words
  lengthLow : UInt32
  lengthHigh : UInt32
  messageBlock : Vector UInt8 64
  messageBlockIndex : Nat
  computed : Bool
  corrupted : Bool
  deriving DecidableEq

def sha1CircularShift (bits word : UInt32) : UInt32 :=
  ((word <<< bits) &&& 0xFFFFFFFF) ||| (word >>> (32 - bits))

/-! ## One block -/

def firstWords (block : Vector UInt8 64) : List UInt32 :=
  (List.finRange 16).map fun t =>
    (block[t.val * 4].toUInt32 <<< 24) ||| (block[t.val * 4 + 1].toUInt32 <<< 16) |||
      (block[t.val * 4 + 2].toUInt32 <<< 8) ||| block[t.val * 4 + 3].toUInt32

def wordAt (w : List UInt32) (t : Nat) : UInt32 := w.getD t 0

/-- The loop from 16 to 80; each round adds a word behind those that it reads. -/
def wordSequence (block : Vector UInt8 64) : List UInt32 :=
  (List.range' 16 64).foldl (fun w t => w ++ [sha1CircularShift 1
    (wordAt w (t - 3) ^^^ wordAt w (t - 8) ^^^ wordAt w (t - 14) ^^^ wordAt w (t - 16))])
    (firstWords block)

def round (f : UInt32 → UInt32 → UInt32 → UInt32) (k : UInt32) (w : List UInt32)
    (words : Words) (t : Nat) : Words :=
  let temp := (sha1CircularShift 5 words.a + f words.b words.c words.d + words.e +
    wordAt w t + k) &&& 0xFFFFFFFF
  { a := temp, b := words.a, c := sha1CircularShift 30 words.b, d := words.c, e := words.d }

def choose (b c d : UInt32) : UInt32 := (b &&& c) ||| (~~~b &&& d)

def parity (b c d : UInt32) : UInt32 := b ^^^ c ^^^ d

def majority (b c d : UInt32) : UInt32 := (b &&& c) ||| (b &&& d) ||| (c &&& d)

def rounds (w : List UInt32) (words : Words) : Words :=
  let words := (List.range' 0 20).foldl (round choose 0x5A827999 w) words
  let words := (List.range' 20 20).foldl (round parity 0x6ED9EBA1 w) words
  let words := (List.range' 40 20).foldl (round majority 0x8F1BBCDC w) words
  (List.range' 60 20).foldl (round parity 0xCA62C1D6 w) words

def sha1ProcessMessageBlock (context : Sha1Context) : Sha1Context :=
  let digest := context.messageDigest
  let words := rounds (wordSequence context.messageBlock) digest
  { context with
    messageDigest :=
      { a := (digest.a + words.a) &&& 0xFFFFFFFF
        b := (digest.b + words.b) &&& 0xFFFFFFFF
        c := (digest.c + words.c) &&& 0xFFFFFFFF
        d := (digest.d + words.d) &&& 0xFFFFFFFF
        e := (digest.e + words.e) &&& 0xFFFFFFFF }
    messageBlockIndex := 0 }

/-! ## Input -/

def Sha1Context.push (context : Sha1Context) (octet : UInt8) : Option Sha1Context :=
  if inside : context.messageBlockIndex < 64 then
    some { context with
      messageBlock := context.messageBlock.set context.messageBlockIndex octet
      messageBlockIndex := context.messageBlockIndex + 1 }
  else none

/-- The length in bits; where both words of it wrap, the message is too long. -/
def Sha1Context.countOctet (context : Sha1Context) : Sha1Context :=
  let lengthLow := (context.lengthLow + 8) &&& 0xFFFFFFFF
  if lengthLow = 0 then
    let lengthHigh := (context.lengthHigh + 1) &&& 0xFFFFFFFF
    { context with
      lengthLow := lengthLow
      lengthHigh := lengthHigh
      corrupted := if lengthHigh = 0 then true else context.corrupted }
  else { context with lengthLow := lengthLow }

def inputOctets : Sha1Context → List UInt8 → Option Sha1Context
  | context, [] => some context
  | context, octet :: rest =>
      if context.corrupted then some context
      else do
        let context ← context.push octet
        let context := context.countOctet
        inputOctets
          (if context.messageBlockIndex = 64 then sha1ProcessMessageBlock context else context)
          rest

def sha1Input (context : Sha1Context) (messageArray : List UInt8) : Option Sha1Context :=
  if messageArray = [] then some context
  else if context.computed || context.corrupted then some { context with corrupted := true }
  else inputOctets context messageArray

/-! ## Reset and result -/

def sha1Reset (context : Sha1Context) : Sha1Context :=
  { context with
    lengthLow := 0
    lengthHigh := 0
    messageBlockIndex := 0
    messageDigest :=
      { a := 0x67452301, b := 0xEFCDAB89, c := 0x98BADCFE, d := 0x10325476, e := 0xC3D2E1F0 }
    computed := false
    corrupted := false }

def Sha1Context.zeroUntil (bound : Nat) (context : Sha1Context) : Option Sha1Context :=
  (List.range (bound - context.messageBlockIndex)).foldlM (fun context _ => context.push 0) context

def Sha1Context.storeLength (context : Sha1Context) : Sha1Context :=
  let octet (word shift : UInt32) : UInt8 := ((word >>> shift) &&& 0xFF).toUInt8
  { context with
    messageBlock := ((((((((context.messageBlock.set 56 (octet context.lengthHigh 24)).set
      57 (octet context.lengthHigh 16)).set 58 (octet context.lengthHigh 8)).set
      59 (octet context.lengthHigh 0)).set 60 (octet context.lengthLow 24)).set
      61 (octet context.lengthLow 16)).set 62 (octet context.lengthLow 8)).set
      63 (octet context.lengthLow 0)) }

def sha1PadMessage (context : Sha1Context) : Option Sha1Context := do
  let context ←
    if context.messageBlockIndex > 55 then do
      let context ← context.push 0x80
      let context ← context.zeroUntil 64
      (sha1ProcessMessageBlock context).zeroUntil 56
    else do
      let context ← context.push 0x80
      context.zeroUntil 56
  return sha1ProcessMessageBlock context.storeLength

def sha1Result (context : Sha1Context) : Option (Int × Sha1Context) :=
  if context.corrupted then some (0, context)
  else if !context.computed then do
    let context ← sha1PadMessage context
    return (1, { context with computed := true })
  else some (1, context)

end Cmput313.Router.Sha1
