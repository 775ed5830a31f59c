import NrfExamples.GnssCoap.Main

namespace NrfExamples
namespace GnssCoap

open Reentrant

/-!
# CoAP messages

One instance of the parameter `CoapLib`: the header with version 1, the type of a
request without confirmation, and the method PUT; the token; options with
extended lengths; and the payload after its marker.
-/

namespace Coap

structure Packet where
  offset : Nat
  delta : Nat
  deriving DecidableEq, Repr

abbrev EINVAL : Int := 22
abbrev EBADMSG : Int := 74
abbrev BASIC_HEADER_SIZE : Nat := 4
abbrev COAP_MARKER : UInt8 := 0xff

/-- Version 1, without confirmation, and the length of the token. -/
abbrev firstByte (tokenLength : Nat) : UInt8 :=
  0x50 ||| (UInt8.ofNat tokenLength &&& 0x0f)

abbrev COAP_METHOD_PUT : UInt8 := 3

/-- Overwrite the buffer from an offset on. -/
def writeAt (buffer : List UInt8) (offset : Nat) (bytes : List UInt8) : List UInt8 :=
  buffer.take offset ++ (bytes ++ buffer.drop (offset + bytes.length))

/-- Add bytes to a message if there is room. -/
def append (buffer : List UInt8) (packet : Packet) (bytes : List UInt8) :
    Int × List UInt8 × Packet :=
  if buffer.length < packet.offset + bytes.length then (-EINVAL, buffer, packet)
  else (0, writeAt buffer packet.offset bytes,
    { packet with offset := packet.offset + bytes.length })

def header (token : List UInt8) (id : UInt16) : List UInt8 :=
  [firstByte token.length, COAP_METHOD_PUT, (id >>> 8).toUInt8, id.toUInt8]

def packetInit (buffer token : List UInt8) (id : UInt16) : Int × List UInt8 × Packet :=
  append buffer ⟨0, 0⟩ (header token id ++ token)

/-- The four bits for a number in an option, and the bytes that extend them. -/
def encodeExtended (number : Nat) : UInt8 × List UInt8 :=
  if number < 13 then (UInt8.ofNat number, [])
  else if number < 269 then (13, [UInt8.ofNat (number - 13)])
  else (14, [UInt8.ofNat ((number - 269) / 256), UInt8.ofNat (number - 269)])

def option (delta : Nat) (value : List UInt8) : List UInt8 :=
  let number := encodeExtended delta
  let length := encodeExtended value.length
  (number.1 <<< 4 ||| length.1) :: (number.2 ++ length.2 ++ value)

/-- Options are added in the order of their codes. -/
def packetAppendOption (buffer : List UInt8) (packet : Packet) (code : Nat)
    (value : List UInt8) : Int × List UInt8 × Packet :=
  if code < packet.delta then (-EINVAL, buffer, packet)
  else append buffer { packet with delta := code } (option (code - packet.delta) value)

def decodeExtended (nibble : UInt8) (bytes : List UInt8) : Option (Nat × List UInt8) :=
  if nibble < 13 then some (nibble.toNat, bytes)
  else
    match nibble, bytes with
    | 13, first :: rest => some (first.toNat + 13, rest)
    | 14, first :: second :: rest => some (first.toNat * 256 + second.toNat + 269, rest)
    | _, _ => none

/-- Skip the options; the fuel is the number of bytes. -/
def parseOptions : (fuel : Nat) -> List UInt8 -> Int
  | 0, _ | _, [] => 0
  | fuel + 1, first :: rest =>
      if first = COAP_MARKER then if rest = [] then -EINVAL else 0
      else
        match decodeExtended (first >>> 4) rest with
        | none => -EINVAL
        | some (_, rest) =>
            match decodeExtended (first &&& 0x0f) rest with
            | none => -EINVAL
            | some (length, rest) =>
                if rest.length < length then -EINVAL else parseOptions fuel (rest.drop length)

def tokenLength (message : List UInt8) : Nat :=
  (message.headD 0 &&& 0x0f).toNat

def packetParse (received : List UInt8) : Int :=
  if received.length < BASIC_HEADER_SIZE then -EINVAL
  else if 8 < tokenLength received then -EBADMSG
  else if received.length < BASIC_HEADER_SIZE + tokenLength received then -EBADMSG
  else parseOptions received.length (received.drop (BASIC_HEADER_SIZE + tokenLength received))

def headerGetToken (buffer : List UInt8) : List UInt8 :=
  (buffer.drop BASIC_HEADER_SIZE).take (tokenLength buffer)

def lib : CoapLib where
  Packet := Packet
  offset := Packet.offset
  packetInit := packetInit
  packetAppendOption := packetAppendOption
  packetAppendPayloadMarker := fun buffer packet => append buffer packet [COAP_MARKER]
  packetAppendPayload := append
  packetParse := fun received => (packetParse received, ⟨received.length, 0⟩)
  headerGetToken := fun _ buffer => headerGetToken buffer

end Coap

/-! ## Scripted runs -/

instance (build : Build) (client : Client) (event : Event) :
    Decidable (mayHappen build client event) :=
  match event with
  | .lte _ | .dateTime | .button _ _ => inferInstanceAs (Decidable (_ ∈ _))
  | .gnssPvt _ _ | .gnssOther | .timer => inferInstanceAs (Decidable (_ ∧ _))
  | .work => inferInstanceAs (Decidable (_ ≠ _))

instance (lib : CoapLib) (build : Build) (allowed : Point -> Client -> Event -> Prop)
    [forall point client event, Decidable (allowed point client event)]
    (query : ThreadQuery Point Outside) (client : Client)
    (answer : Thread.Answer mainThread query) :
    Decidable ((setup lib build allowed).system.permitted query client answer) :=
  match query, answer with
  | .next _, none => .isTrue trivial
  | .next _, some _ => inferInstanceAs (Decidable (_ ∧ _))
  | .reply (.recv _), _ => inferInstanceAs (Decidable (_ ∨ _))
  | .reply (.call _), _ | .reply (.snprintf _), _ | .reply .coapNextId, _
  | .reply .sysRand32Get, _ => .isTrue trivial

/-- No restriction on the events. -/
def anyEvent (_ : Point) (_ : Client) (_ : Event) : Prop :=
  True

instance (point : Point) (client : Client) (event : Event) :
    Decidable (anyEvent point client event) :=
  .isTrue trivial

abbrev Script := List (Sigma (Thread.Answer mainThread))

/-- An event comes in. -/
def occurs (point : Point) (event : Event) : Script :=
  [⟨.next point, some event⟩]

/-- `main` goes on. -/
def passes (point : Point) : Script :=
  [⟨.next point, none⟩]

/-- A call that nothing interrupts, and its result. -/
def returns (result : Int) (function : Call) : Script :=
  passes (.before function) ++ [⟨.reply (.call function), result⟩]

/-- The calls of `main` up to the wait for LTE. -/
def starting : Script :=
  [Call.gpioPinConfigure false, .gpioPinInterruptConfigure false, .gpioAddCallback false,
    .gpioPinConfigure true, .gpioPinInterruptConfigure true, .gpioAddCallback true,
    .dateTimeRegisterHandler, .lteLcInit, .lteLcPsmReq, .lteLcRaiReq, .lteLcConnectAsync].flatMap
      (returns 0)

def registers : Script :=
  occurs .busy (.lte (some 1))

/-- The first button is pressed, and the work item sends a request. -/
def pressAndSend (point : Point) (id : UInt16) (sock length : Int) : Script :=
  occurs point (.button true false) ++ occurs point .work ++
    [⟨.reply .coapNextId, id⟩, ⟨.reply (.call (.send sock)), length⟩]

/-- From the end of the wait for LTE until descriptor 3 is connected; the first
token is drawn. -/
def connecting : Script :=
  passes .busy ++ returns 0 .dateTimeUpdateAsync ++ passes .timeSem ++ returns 0 .getaddrinfo ++
    returns 1 .addrinfo ++ returns 0 .freeaddrinfo ++ returns 3 .socket ++
    returns 0 (.connect 3) ++ [⟨.reply .sysRand32Get, (0x1234 : UInt32)⟩]

def gnssBuild : Build :=
  ⟨false, false⟩

def scripted (allowed : Point -> Client -> Event -> Prop)
    [forall point client event, Decidable (allowed point client event)] (fuel : Nat)
    (script : Script) : ClientConfig :=
  (setup Coap.lib gnssBuild allowed).system.play (I := mainThread.interface) fuel script
    ⟨Client.initial, main gnssBuild⟩

theorem scripted_reached (allowed : Point -> Client -> Event -> Prop)
    [forall point client event, Decidable (allowed point client event)] (fuel : Nat)
    (script : Script) :
    ClientReached Coap.lib gnssBuild allowed (scripted allowed fuel script) :=
  (setup Coap.lib gnssBuild allowed).system.play_reachable fuel script _

end GnssCoap
end NrfExamples
