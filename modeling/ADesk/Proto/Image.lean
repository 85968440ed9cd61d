/- ADesk/Proto/Image
   digest: Images on the wire, and the buffers that raw payloads are read into. -/

import Mathlib.Data.Rat.Defs
import ADesk.Core.Image
import ADesk.Server.Failures

set_option autoImplicit false

namespace ADesk.Proto.Image

open ADesk.Core.Geometry (u32Max)
open ADesk.Core.Image
open ADesk.Foundation.Raster
open ADesk.Server.Failures (ProtoError)

/-- The base64 engine; decoding answers with the text of its error. -/
structure Engine where
  encode : List UInt8 → String
  decode : String → Except String (List UInt8)

/-- What is encoded is decoded. -/
def Engine.Lossless (engine : Engine) : Prop :=
  ∀ bytes, engine.decode (engine.encode bytes) = .ok bytes

inductive ImageFormat
  | png
  | rgba8
  deriving DecidableEq

/-- The name of a format in messages. -/
def ImageFormat.debug : ImageFormat → String
  | .png => "Png"
  | .rgba8 => "Rgba8"

structure ImagePayload where
  width : ℕ
  height : ℕ
  format : ImageFormat
  stride : Option ℕ
  data : String
  scale : ℚ

namespace ImagePayload

variable (engine : Engine)

def fromRgba8 (width height : ℕ) (data : List UInt8) (scale : ℚ) :
    Except ProtoError ImagePayload :=
  let stride := width * 4
  if u32Max < stride then
    .error (.malformed s!"image width {width} exceeds the maximum RGBA stride")
  else
    let expected := stride * height
    if ImageBuffer.usizeMax < expected then
      .error (.malformed s!"image dimensions {width}x{height} overflow the RGBA byte count")
    else if expected ≠ data.length then
      .error (.malformed (s!"RGBA data length {data.length} does not match {width}x{height} " ++
        s!"(expected {expected} bytes)"))
    else .ok ⟨width, height, .rgba8, some stride, engine.encode data, scale⟩

def fromPng (width height : ℕ) (pngBytes : List UInt8) (scale : ℚ) : ImagePayload :=
  ⟨width, height, .png, none, engine.encode pngBytes, scale⟩

def decodeData (payload : ImagePayload) : Except ProtoError (List UInt8) :=
  (engine.decode payload.data).mapError .base64

def toRgba8Buffer (payload : ImagePayload) : Except ProtoError ImageBuffer :=
  if payload.format ≠ .rgba8 then
    .error (.malformed s!"cannot build an RGBA8 buffer from a {payload.format.debug} payload")
  else
    let stride := payload.width * 4
    if u32Max < stride then
      .error (.malformed s!"image width {payload.width} exceeds the maximum RGBA stride")
    else
      match payload.stride with
      | none =>
        .error (.malformed (s!"rgba8 payload for {payload.width}x{payload.height} is missing " ++
          "its stride"))
      | some declared =>
        if declared ≠ stride then
          .error (.malformed (s!"RGBA stride {declared} is not tightly packed for width " ++
            s!"{payload.width} (expected {stride})"))
        else
          match payload.decodeData engine with
          | .error error => .error error
          | .ok data =>
            let expected := stride * payload.height
            if expected ≠ data.length then
              .error (.malformed (s!"RGBA data length {data.length} does not match " ++
                s!"{payload.width}x{payload.height} (expected {expected} bytes)"))
            else .ok ⟨payload.width, payload.height, stride, .rgba8, data⟩

end ImagePayload

/-- A raw payload is read into the buffer of its data. -/
theorem rgba8_round_trip {engine : Engine} (lossless : engine.Lossless) {width height : ℕ}
    {data : List UInt8} (scale : ℚ) (narrow : width * 4 ≤ u32Max) (low : height ≤ u32Max)
    (full : width * 4 * height = data.length) :
    ∃ payload, ImagePayload.fromRgba8 engine width height data scale = .ok payload ∧
      payload.toRgba8Buffer engine = .ok ⟨width, height, width * 4, .rgba8, data⟩ := by
  have fits : width * 4 * height ≤ u32Max * u32Max := Nat.mul_le_mul narrow low
  have most : u32Max * u32Max ≤ ImageBuffer.usizeMax := by decide
  refine ⟨⟨width, height, .rgba8, some (width * 4), engine.encode data, scale⟩, ?_, ?_⟩
  · unfold ImagePayload.fromRgba8
    dsimp only
    rw [if_neg (by omega), if_neg (by omega), if_neg (by simp [full])]
  · unfold ImagePayload.toRgba8Buffer ImagePayload.decodeData
    dsimp only
    rw [if_neg (by simp), if_neg (by omega), lossless]
    simp [Except.mapError, full]

end ADesk.Proto.Image
