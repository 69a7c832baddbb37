import Unmask.Host.Scripted

/-!
# Deterministic hosts

A host is deterministic if its answers depend on the question alone. It may number its images as it
likes, and need not know an image before it has loaded it, so an image is compared with every other
one of the same data, as long as each is in use.

## Main definitions

* `Host.Serves` — the host has loaded an image and was asked about nothing else since.
* `Host.AnswersAlike` — two images of the same data answer alike.
* `Host.Steady` — no answer about an image depends on what was asked before.
* `Host.Deterministic` — loads fail alike, and what is loaded answers alike.
-/

namespace Unmask

variable {σ : Type}

namespace Host

/-- The image was loaded from the data, and since then the host was asked about that image only. -/
inductive Serves (host : Host σ) (data : ByteArray) (image : ImageId) : σ → Prop where
  | load {s : σ} (h : (host.load data s).value = .ok image) :
      Serves host data image (host.load data s).state
  | findType {s : σ} (h : Serves host data image s) (name : String) :
      Serves host data image (host.findType image name s).state
  | findMethod {s : σ} (h : Serves host data image s) (typeName name : String) :
      Serves host data image (host.findMethod image typeName name s).state
  | invoke {s : σ} (h : Serves host data image s) (typeName name : String) (arg : Int32) :
      Serves host data image (host.invoke image typeName name [.int32 arg] s).state

/-- Two images of the data answer alike, whatever was asked about them before. -/
structure AnswersAlike (host : Host σ) (data : ByteArray) (image image' : ImageId) : Prop where
  findType : ∀ {s t}, host.Serves data image s → host.Serves data image' t → ∀ name,
    (host.findType image name s).value = (host.findType image' name t).value
  findMethod : ∀ {s t}, host.Serves data image s → host.Serves data image' t → ∀ typeName name,
    (host.findMethod image typeName name s).value = (host.findMethod image' typeName name t).value
  invoke : ∀ {s t}, host.Serves data image s → host.Serves data image' t →
    ∀ typeName name arg, (host.invoke image typeName name [.int32 arg] s).value =
      (host.invoke image' typeName name [.int32 arg] t).value

/-- What an image of the data answers does not depend on what was asked before. -/
def Steady (host : Host σ) (data : ByteArray) : Prop :=
  ∀ image, host.AnswersAlike data image image

/-- The answers of the host depend on the question alone, and those about an image on the data that
it was loaded from. -/
structure Deterministic (host : Host σ) : Prop where
  load : ∀ {data s e}, (host.load data s).value = .error e →
    ∀ t, (host.load data t).value = .error e
  alike : ∀ data image image', host.AnswersAlike data image image'

variable {host : Host σ} {data : ByteArray} {image image' : ImageId}

theorem Deterministic.steady (h : host.Deterministic) (data : ByteArray) : host.Steady data :=
  fun image => h.alike data image image

/-- The data can be loaded whatever was asked before, or never. -/
theorem Deterministic.load_cases (h : host.Deterministic) (data : ByteArray) (s t : σ) :
    (∃ e, (host.load data s).value = .error e ∧ (host.load data t).value = .error e) ∨
      ∃ image image', (host.load data s).value = .ok image ∧
        (host.load data t).value = .ok image' := by
  cases hs : (host.load data s).value with
  | error e => exact .inl ⟨e, rfl, h.load hs t⟩
  | ok image =>
    cases ht : (host.load data t).value with
    | error e => exact absurd (hs.symm.trans (h.load ht s)) (fun heq => nomatch heq)
    | ok image' => exact .inr ⟨image, image', rfl, rfl⟩

/-- An image that answers like another one in use does not change its answers. -/
theorem AnswersAlike.self (h : host.AnswersAlike data image image') {t : σ}
    (ht : host.Serves data image' t) : host.AnswersAlike data image image where
  findType hs hs' name := (h.findType hs ht name).trans (h.findType hs' ht name).symm
  findMethod hs hs' typeName name :=
    (h.findMethod hs ht typeName name).trans (h.findMethod hs' ht typeName name).symm
  invoke hs hs' typeName name arg :=
    (h.invoke hs ht typeName name arg).trans (h.invoke hs' ht typeName name arg).symm

end Host

namespace HostScript

/-- Hosts that follow a script are deterministic. -/
theorem host_deterministic (script : HostScript) : script.host.Deterministic where
  load h _ := h
  alike _ _ _ := ⟨fun _ _ _ => rfl, fun _ _ _ _ => rfl, fun _ _ _ _ _ => rfl⟩

/-- The host that follows a script and numbers the images that it loads. Of any other image it knows
nothing. -/
def numbered (script : HostScript) : Host Nat where
  load data n := match (script.host.load data []).value with
    | .error e => { value := .error e, state := n }
    | .ok _ => { value := .ok (.ofNat n), state := n + 1 }
  findType image name n :=
    { value := image.toNat < n && (script.host.findType image name []).value, state := n }
  findMethod image typeName name n :=
    { value := image.toNat < n && (script.host.findMethod image typeName name []).value
      state := n }
  invoke image typeName name args n :=
    { value :=
        if image.toNat < n then (script.host.invoke image typeName name args []).value
        else .error (.other "no such image")
      state := n }

theorem numbered_known {script : HostScript} {data : ByteArray} {image : ImageId} {n : Nat}
    (h : script.numbered.Serves data image n) : image.toNat < n := by
  induction h with
  | @load n h =>
    cases script with
    | unavailable message => cases h
    | types known =>
      obtain rfl := Except.ok.inj h
      have hwrap : (UInt32.ofNat n).toNat ≤ n := by
        rw [UInt32.toNat_ofNat']
        exact Nat.mod_le n _
      exact Nat.lt_succ_of_le hwrap
  | findType _ _ ih | findMethod _ _ _ ih | invoke _ _ _ _ ih => exact ih

/-- A host that numbers its images is deterministic, though the same data get another number each
time they are loaded. -/
theorem numbered_deterministic (script : HostScript) : script.numbered.Deterministic where
  load h _ := by
    cases script with
    | unavailable message => exact h
    | types known => cases h
  alike _ _ _ :=
    { findType := fun hs ht name => by simp [numbered, numbered_known hs, numbered_known ht, host]
      findMethod := fun hs ht typeName name => by
        simp [numbered, numbered_known hs, numbered_known ht, host]
      invoke := fun hs ht typeName name arg => by
        simp [numbered, numbered_known hs, numbered_known ht, host] }

end HostScript

end Unmask
