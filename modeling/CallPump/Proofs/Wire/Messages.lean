/-
  CallPump.Proofs.Wire.Messages — every message of the calls is read back as it was written.

  Each message is its fields, copied one after the other into an empty one. A message is as
  deep as the messages in its fields make it, and none comes near the depth at which
  reading gives up.
-/

import CallPump.Proofs.Wire.RoundTrip

namespace CallPump

open Wire Wire.Field Wire.Scalar

/-! ## Flat messages -/

theorem Timestamp.faithful : (Message.schema (M := Timestamp)).Faithful 0 := fun _ _ _ =>
  .cons (copies_one rfl (by decide) int64_faithful rfl) <|
  .cons (copies_one rfl (by decide) int32_faithful rfl) <|
  .nil _

theorem Any.faithful : (Message.schema (M := Any)).Faithful 0 := fun _ _ _ =>
  .cons (copies_one rfl (by decide) text_faithful rfl) <|
  .cons (copies_one rfl (by decide) bytes_faithful rfl) <|
  .nil _

theorem DataChunk.faithful : (Message.schema (M := DataChunk)).Faithful 0 := fun _ _ _ =>
  .cons (copies_one rfl (by decide) uint64_faithful rfl) <|
  .cons (copies_one rfl (by decide) bytes_faithful rfl) <|
  .nil _

theorem LeaseOwner.faithful : (Message.schema (M := LeaseOwner)).Faithful 0 := fun _ _ _ =>
  .cons (copies_one rfl (by decide) text_faithful rfl) <|
  .cons (copies_one rfl (by decide) text_faithful rfl) <|
  .nil _

theorem Lease.faithful : (Message.schema (M := Lease)).Faithful 0 := fun _ _ _ =>
  .cons (copies_one rfl (by decide) text_faithful rfl) <|
  .cons (copies_one rfl (by decide) text_faithful rfl) <|
  .cons (copies_packed rfl (by decide) uint32_faithful (fun _ => Varint.write_ne_nil _)
    ⟨fun _ => rfl, fun _ _ => rfl, rfl⟩ rfl) <|
  .cons (copies_many rfl (by decide) text_faithful ⟨fun _ => rfl, fun _ _ => rfl, rfl⟩) <|
  .nil _

/-! ## Messages in messages -/

theorem RequestHeader.faithful : (Message.schema (M := RequestHeader)).Faithful 1 := fun _ _ hd =>
  .cons (copies_sub rfl (by decide) Timestamp.faithful hd rfl rfl) <|
  .cons (copies_one rfl (by decide) text_faithful rfl) <|
  .cons (copies_one rfl (by decide) bool_faithful rfl) <|
  .nil _

theorem CommonError.faithful : (Message.schema (M := CommonError)).Faithful 1 := fun _ _ hd =>
  .cons (copies_one rfl (by decide) int32_faithful rfl) <|
  .cons (copies_one rfl (by decide) text_faithful rfl) <|
  .cons (copies_sub rfl (by decide) Any.faithful hd rfl rfl) <|
  .nil _

theorem ResponseHeader.faithful : (Message.schema (M := ResponseHeader)).Faithful 2 := fun _ _ hd =>
  .cons (copies_sub rfl (by decide) RequestHeader.faithful hd rfl rfl) <|
  .cons (copies_sub rfl (by decide) Timestamp.faithful (by omega) rfl rfl) <|
  .cons (copies_sub rfl (by decide) Timestamp.faithful (by omega) rfl rfl) <|
  .cons (copies_sub rfl (by decide) CommonError.faithful hd rfl rfl) <|
  .cons (copies_sub rfl (by decide) Any.faithful (by omega) rfl rfl) <|
  .nil _

theorem LeaseUseResult.faithful : (Message.schema (M := LeaseUseResult)).Faithful 1 := fun _ _ hd =>
  .cons (copies_one rfl (by decide) int32_faithful rfl) <|
  .cons (copies_sub rfl (by decide) LeaseOwner.faithful hd rfl rfl) <|
  .cons (copies_sub rfl (by decide) Lease.faithful hd rfl rfl) <|
  .cons (copies_sub rfl (by decide) Lease.faithful hd rfl rfl) <|
  .cons (copies_sub rfl (by decide) Lease.faithful hd rfl rfl) <|
  .cons (copies_subs rfl (by decide) Lease.faithful hd ⟨fun _ => rfl, fun _ _ => rfl, rfl⟩) <|
  .nil _

theorem EchoRequest.faithful : (Message.schema (M := EchoRequest)).Faithful 2 := fun _ _ hd =>
  .cons (copies_sub rfl (by decide) RequestHeader.faithful hd rfl rfl) <|
  .cons (copies_one rfl (by decide) text_faithful rfl) <|
  .cons (copies_one rfl (by decide) bytes_faithful rfl) <|
  .nil _

theorem EchoResponse.faithful : (Message.schema (M := EchoResponse)).Faithful 3 := fun _ _ hd =>
  .cons (copies_sub rfl (by decide) ResponseHeader.faithful hd rfl rfl) <|
  .cons (copies_one rfl (by decide) text_faithful rfl) <|
  .cons (copies_one rfl (by decide) bytes_faithful rfl) <|
  .cons (copies_sub rfl (by decide) LeaseUseResult.faithful (by omega) rfl rfl) <|
  .nil _

instance : Lossless Timestamp := Timestamp.faithful.lossless (by decide)
instance : Lossless Any := Any.faithful.lossless (by decide)
instance : Lossless DataChunk := DataChunk.faithful.lossless (by decide)
instance : Lossless LeaseOwner := LeaseOwner.faithful.lossless (by decide)
instance : Lossless Lease := Lease.faithful.lossless (by decide)
instance : Lossless RequestHeader := RequestHeader.faithful.lossless (by decide)
instance : Lossless CommonError := CommonError.faithful.lossless (by decide)
instance : Lossless ResponseHeader := ResponseHeader.faithful.lossless (by decide)
instance : Lossless LeaseUseResult := LeaseUseResult.faithful.lossless (by decide)
instance : Lossless EchoRequest := EchoRequest.faithful.lossless (by decide)
instance : Lossless EchoResponse := EchoResponse.faithful.lossless (by decide)

end CallPump
