/-
  CallPump.Proofs.Params — layers of parameters.

  Each field has one value that says nothing, and a layer decides a field unless it has
  that value there. So the layers are a monoid with `{}` as its unit: how they are grouped
  makes no difference, and of each field the last layer that says something decides.

  - `foldl_overlay`: one field along any layers.
  - `Params.foldl_combine`, `Params.ofLayers_flatten`: grouping.
  - `Params.apply_ofLayers`: the merged choice does to a header what the choices do in turn.
  - `Params.layering_is_lawful`: all of it.
-/

import CallPump.Proofs.Client.Defaults

namespace CallPump

/-! ## One field -/

section

variable {α : Type} [DecidableEq α] (blank : α)

/-- The value `upper` on top of `lower`, where `blank` says nothing. -/
def overlay (lower upper : α) : α := if upper = blank then lower else upper

/-- The last value that says something. -/
def lastSaid? (xs : List α) : Option α := (xs.filter (· ≠ blank)).getLast?

variable {blank}

@[simp] theorem overlay_blank (x : α) : overlay blank x blank = x := if_pos rfl

@[simp] theorem blank_overlay (x : α) : overlay blank blank x = x := by
  by_cases h : x = blank
  · rw [h, overlay_blank]
  · rw [overlay, if_neg h]

theorem overlay_assoc (x y z : α) : overlay blank (overlay blank x y) z = overlay blank x (overlay blank y z) := by
  by_cases h : z = blank
  · simp [h]
  · simp [overlay, h]

theorem foldl_overlay (x : α) (xs : List α) : xs.foldl (overlay blank) x = (lastSaid? blank xs).getD x := by
  induction xs generalizing x with
  | nil => rfl
  | cons y ys ih =>
    rw [List.foldl_cons, ih]
    by_cases h : y = blank
    · simp [lastSaid?, h]
    · simp [lastSaid?, overlay, h, List.getLast?_cons]

end

/-! ## All of them -/

namespace Params

@[simp] theorem timeout_combine (a b : Params) : (a.combine b).timeout = overlay 0 a.timeout b.timeout := rfl

@[simp] theorem logging_combine (a b : Params) :
    (a.combine b).logging = overlay .default a.logging b.logging := rfl

theorem ext {a b : Params} (ht : a.timeout = b.timeout) (hl : a.logging = b.logging) : a = b := by
  cases a; cases b; cases ht; cases hl; rfl

instance : Std.Associative combine where
  assoc _ _ _ := ext (overlay_assoc ..) (overlay_assoc ..)

instance : Std.LawfulIdentity combine {} where
  left_id _ := ext (by simp) (by simp)
  right_id _ := ext (by simp) (by simp)

theorem foldl_combine (base : Params) (layers : List Params) :
    layers.foldl combine base = base.combine (ofLayers layers) := by
  have h : base.combine {} = base := Std.LawfulRightIdentity.right_id base
  calc
    layers.foldl combine base = layers.foldl combine (base.combine {}) := by rw [h]
    _ = base.combine (ofLayers layers) := List.foldl_assoc

/-- Layers can be merged in groups first. -/
theorem ofLayers_flatten (groups : List (List Params)) : ofLayers (groups.map ofLayers) = ofLayers groups.flatten := by
  rw [ofLayers, ofLayers, List.foldl_map, List.foldl_flatten]
  congr
  funext base layers
  exact (foldl_combine base layers).symm

theorem timeout_ofLayers (layers : List Params) :
    (ofLayers layers).timeout = (lastSaid? 0 (layers.map timeout)).getD 0 := by
  rw [← foldl_overlay, List.foldl_map]
  exact (List.foldl_hom timeout fun _ _ => rfl).symm

theorem logging_ofLayers (layers : List Params) :
    (ofLayers layers).logging = (lastSaid? .default (layers.map logging)).getD .default := by
  rw [← foldl_overlay, List.foldl_map]
  exact (List.foldl_hom logging fun _ _ => rfl).symm

theorem apply_combine (a b : Params) (h : RequestHeader) :
    (a.combine b).logging.apply h = b.logging.apply (a.logging.apply h) := by
  cases hb : b.logging <;> cases ha : a.logging <;> simp [overlay, ha, hb, Logging.apply]

theorem apply_ofLayers (layers : List Params) (h : RequestHeader) :
    (ofLayers layers).logging.apply h = layers.foldl (fun h p => p.logging.apply h) h :=
  (List.foldl_hom (fun p : Params => p.logging.apply h) fun a b => (apply_combine a b h).symm).symm

/-- Layers are lawful. Combining is associative, and parameters that say nothing are its
    unit on both sides. Of any layers, the last timeout that is not zero applies, and there
    is none if all are zero; so it is with the logging choice. Layers can be merged in
    groups first. The merged choice does to every header what the layers' choices do
    one after the other, which is to set one flag or to leave it. -/
theorem layering_is_lawful :
    (∀ a b c : Params, (a.combine b).combine c = a.combine (b.combine c)) ∧
    (∀ a : Params, combine {} a = a ∧ a.combine {} = a) ∧
    (∀ groups : List (List Params), ofLayers (groups.map ofLayers) = ofLayers groups.flatten) ∧
    ∀ layers : List Params,
      (ofLayers layers).timeout = (lastSaid? 0 (layers.map timeout)).getD 0 ∧
      (ofLayers layers).logging = (lastSaid? .default (layers.map logging)).getD .default ∧
      ∀ h : RequestHeader,
        (ofLayers layers).logging.apply h = layers.foldl (fun h p => p.logging.apply h) h ∧
        (ofLayers layers).logging.apply h =
          { h with disableRpcLogging :=
              ((lastSaid? .default (layers.map logging)).bind Logging.flag?).getD h.disableRpcLogging } := by
  refine ⟨Std.Associative.assoc, fun a => ⟨Std.LawfulLeftIdentity.left_id a, Std.LawfulRightIdentity.right_id a⟩,
    ofLayers_flatten, fun layers => ⟨timeout_ofLayers layers, logging_ofLayers layers, fun h =>
      ⟨apply_ofLayers layers h, ?_⟩⟩⟩
  rw [Logging.apply_eq, logging_ofLayers]
  cases lastSaid? .default (layers.map logging) <;> rfl

/-- The service says nothing of time, and the call nothing of logging. -/
example :
    let client : Params := ⟨.ofSeconds 5, .enabled⟩
    let service : Params := ⟨0, .disabled⟩
    let call : Params := ⟨.ofMillis 20, .default⟩
    ofLayers [client, service, call] = ⟨.ofMillis 20, .disabled⟩ ∧
      client.combine (service.combine call) = ⟨.ofMillis 20, .disabled⟩ := by decide

end Params

end CallPump
