import Mathlib.Data.List.Basic
import RoleOperator.Proofs.Text.Trimming
import RoleOperator.Vault.Adapter

/-!
# Where roles are kept

The address of a role in Vault tells its mount, its kind, its namespace and its name: the parts are
found again from the end, where the last slash and the first dot of the last segment divide them. So no
two objects share a role, and none shares the id of its finalization.
-/
namespace RoleOperator

open Text (SameInside padded)

/-! ## Texts divided by a mark -/

section Divided

variable {α : Type} {xs ys xs' ys' : List α} {mark : α}

theorem eq_of_divided_front (hx : mark ∉ xs) (hx' : mark ∉ xs')
    (h : xs ++ mark :: ys = xs' ++ mark :: ys') : xs = xs' ∧ ys = ys' := by
  induction xs generalizing xs' with
  | nil =>
    cases xs' with
    | nil => exact ⟨rfl, (List.cons.inj h).2⟩
    | cons x rest =>
      obtain ⟨rfl, -⟩ := List.cons.inj h
      exact absurd List.mem_cons_self hx'
  | cons x rest ih =>
    cases xs' with
    | nil =>
      obtain ⟨rfl, -⟩ := List.cons.inj h
      exact absurd List.mem_cons_self hx
    | cons x' rest' =>
      obtain ⟨rfl, later⟩ := List.cons.inj h
      have free : mark ∉ rest := fun hm => hx (List.mem_cons_of_mem _ hm)
      have free' : mark ∉ rest' := fun hm => hx' (List.mem_cons_of_mem _ hm)
      obtain ⟨rfl, tails⟩ := ih free free' later
      exact ⟨rfl, tails⟩

theorem eq_of_divided_back (hy : mark ∉ ys) (hy' : mark ∉ ys')
    (h : xs ++ mark :: ys = xs' ++ mark :: ys') : xs = xs' ∧ ys = ys' := by
  have flipped := congrArg List.reverse h
  simp only [List.reverse_append, List.reverse_cons, List.append_assoc, List.singleton_append]
    at flipped
  have free : mark ∉ ys.reverse := by simpa using hy
  have free' : mark ∉ ys'.reverse := by simpa using hy'
  obtain ⟨backs, fronts⟩ := eq_of_divided_front free free' flipped
  exact ⟨List.reverse_inj.1 fronts, List.reverse_inj.1 backs⟩

end Divided

/-! ## Mounts -/

namespace RoleSpec

/-- The mount path without the slashes around it. -/
def mount (s : RoleSpec) : List Char := Text.trimBoth (· = '/') s.path.toList

/-- The same specification for another mount path. -/
def withPath (s : RoleSpec) (path : String) : RoleSpec :=
  match s with
  | .gcp s => .gcp { s with path }
  | .aws s => .aws { s with path }

@[simp] theorem kind_withPath (s : RoleSpec) (path : String) : (s.withPath path).kind = s.kind := by
  cases s <;> rfl

@[simp] theorem path_withPath (s : RoleSpec) (path : String) : (s.withPath path).path = path := by
  cases s <;> rfl

theorem rolesPath_congr {s t : RoleSpec} (kind : s.kind = t.kind)
    (inside : SameInside '/' s.path.toList t.path.toList) : s.rolesPath = t.rolesPath := by
  rw [rolesPath, rolesPath, kind, Text.sameInside_iff.1 inside]

end RoleSpec

namespace Kind

variable {k k' : Kind}

theorem slash_not_mem_collection (k : Kind) : '/' ∉ k.collection.toList := by
  cases k <;> decide

theorem collection_inj (h : k.collection.toList = k'.collection.toList) : k = k' := by
  cases k <;> cases k' <;> first | rfl | exact absurd h (by decide)

theorem slash_not_mem_plural (k : Kind) : '/' ∉ k.plural.toList := by
  cases k <;> decide

theorem plural_inj (h : k.plural.toList = k'.plural.toList) : k = k' := by
  cases k <;> cases k' <;> first | rfl | exact absurd h (by decide)

/-- The collection in a mount. The empty mount has no slash behind it. -/
def inMount (k : Kind) : List Char → List Char
  | [] => k.collection.toList
  | c :: cs => c :: cs ++ '/' :: k.collection.toList

theorem inMount_inj {m m' : List Char} (h : k.inMount m = k'.inMount m') : k = k' ∧ m = m' := by
  have bare := slash_not_mem_collection k
  have bare' := slash_not_mem_collection k'
  cases m with
  | nil =>
    cases m' with
    | nil => exact ⟨collection_inj h, rfl⟩
    | cons c cs =>
      change k.collection.toList = c :: cs ++ '/' :: k'.collection.toList at h
      simp [h] at bare
  | cons c cs =>
    cases m' with
    | nil =>
      change c :: cs ++ '/' :: k.collection.toList = k'.collection.toList at h
      simp [← h] at bare'
    | cons c' cs' =>
      obtain ⟨mounts, collections⟩ := eq_of_divided_back bare bare' h
      exact ⟨collection_inj collections, mounts⟩

end Kind

/-! ## Addresses -/

namespace Role

/-- An object with a name without slashes, in a namespace without slashes and dots. -/
structure Placed (r : Role) (ns name : String) : Prop where
  inNamespace : r.metadata.ns = some ns
  named : r.metadata.name = some name
  ns_slash : '/' ∉ ns.toList
  ns_dot : '.' ∉ ns.toList
  name_slash : '/' ∉ name.toList

theorem Placed.vaultName {r : Role} {ns name : String} (h : r.Placed ns name) :
    r.vaultName.toList = "k8s.".toList ++ (ns.toList ++ '.' :: name.toList) := by
  simp [Role.vaultName, h.inNamespace, Metadata.anyName, h.named]

theorem Placed.finalizationId {r : Role} {ns name : String} (h : r.Placed ns name) :
    r.finalizationId.toList =
      r.kind.plural.toList ++ '/' :: (ns.toList ++ '/' :: name.toList) := by
  simp [Role.finalizationId, h.inNamespace, Metadata.anyName, h.named]

theorem Placed.slash_not_mem_vaultName {r : Role} {ns name : String} (h : r.Placed ns name) :
    '/' ∉ r.vaultName.toList := by
  have ns_slash := h.ns_slash
  have name_slash := h.name_slash
  rw [h.vaultName]
  simp [ns_slash, name_slash]

/-- The address of a role, from its parts. -/
theorem url_vaultPath (c : Vault.Client) (r : Role) :
    (c.url r.vaultPath).toList =
      Text.trimEnd (· = '/') c.addr.toList ++
        ("/v1/".toList ++ (r.kind.inMount r.spec.mount ++ '/' :: r.vaultName.toList)) := by
  have parts : r.vaultPath.toList =
      r.spec.mount ++ '/' :: (r.kind.collection.toList ++ '/' :: r.vaultName.toList) := by
    simp [vaultPath, RoleSpec.rolesPath, RoleSpec.mount, kind]
  have trimmed : Text.trimStart (· = '/') r.vaultPath.toList =
      r.kind.inMount r.spec.mount ++ '/' :: r.vaultName.toList := by
    rw [parts]
    have front := Text.head?_trimBoth '/' r.spec.path.toList
    change r.spec.mount.head? ≠ some '/' at front
    cases hm : r.spec.mount with
    | nil => cases r.kind <;> rfl
    | cons m ms =>
      have inside : m ≠ '/' := by
        rintro rfl
        exact front (by rw [hm]; rfl)
      simp [Text.trimStart, Kind.inMount, inside]
  simp [Vault.Client.url, trimmed]

/-- The object with more slashes around its mount path. -/
def withSlashes (r : Role) (i j : Nat) : Role :=
  { r with spec := r.spec.withPath (String.ofList (padded '/' i j r.spec.path.toList)) }

theorem vaultPath_withSlashes (r : Role) (i j : Nat) : (r.withSlashes i j).vaultPath = r.vaultPath := by
  have inside : SameInside '/' (r.withSlashes i j).spec.path.toList r.spec.path.toList :=
    ⟨r.spec.path.toList, i, j, 0, 0, by simp [withSlashes], by simp [padded]⟩
  have kinds : (r.withSlashes i j).spec.kind = r.spec.kind := RoleSpec.kind_withPath _ _
  rw [vaultPath, vaultPath, RoleSpec.rolesPath_congr kinds inside]
  rfl

end Role

/-- The client with more slashes behind the address of Vault. -/
def Vault.Client.withSlashes (c : Vault.Client) (n : Nat) : Vault.Client :=
  { c with addr := c.addr ++ String.ofList (List.replicate n '/') }

theorem Vault.Client.url_withSlashes (c : Vault.Client) (n : Nat) (path : String) :
    (c.withSlashes n).url path = c.url path := by
  simp [withSlashes, url, Text.trimEnd_replicate]

namespace Role

variable {a b : Role} {ns ns' name name' : String}

/-- Two objects whose roles have one address are the same object and name the same mount, and two
objects whose finalizations have one id are the same object. Slashes around a mount path and behind the
address of Vault make no difference. -/
theorem roles_apart (ha : a.Placed ns name) (hb : b.Placed ns' name') (c : Vault.Client) :
    (c.url a.vaultPath = c.url b.vaultPath ↔
      a.kind = b.kind ∧ ns = ns' ∧ name = name' ∧
        SameInside '/' a.spec.path.toList b.spec.path.toList) ∧
    (a.finalizationId = b.finalizationId ↔ a.kind = b.kind ∧ ns = ns' ∧ name = name') ∧
    ∀ (r : Role) (i j n : Nat),
      (c.withSlashes n).url (r.withSlashes i j).vaultPath = c.url r.vaultPath := by
  refine ⟨⟨fun same => ?_, ?_⟩, ⟨fun same => ?_, ?_⟩, fun r i j n => ?_⟩
  · have parts := congrArg String.toList same
    rw [url_vaultPath, url_vaultPath] at parts
    have behind := List.append_cancel_left (List.append_cancel_left parts)
    -- The name of the role is what stands behind the last slash.
    obtain ⟨places, names⟩ := eq_of_divided_back ha.slash_not_mem_vaultName
      hb.slash_not_mem_vaultName behind
    obtain ⟨kinds, mounts⟩ := Kind.inMount_inj places
    rw [ha.vaultName, hb.vaultName] at names
    -- Names may have dots, so it is the first dot that ends the namespace.
    obtain ⟨spaces, names⟩ := eq_of_divided_front ha.ns_dot hb.ns_dot (List.append_cancel_left names)
    have inside : SameInside '/' a.spec.path.toList b.spec.path.toList :=
      Text.sameInside_iff.2 mounts
    exact ⟨kinds, String.toList_inj.1 spaces, String.toList_inj.1 names, inside⟩
  · rintro ⟨kinds, rfl, rfl, inside⟩
    have names : a.vaultName = b.vaultName := by
      rw [← String.toList_inj, ha.vaultName, hb.vaultName]
    rw [vaultPath, vaultPath, RoleSpec.rolesPath_congr kinds inside, names]
  · have parts := congrArg String.toList same
    rw [ha.finalizationId, hb.finalizationId] at parts
    obtain ⟨kinds, rest⟩ := eq_of_divided_front (Kind.slash_not_mem_plural _)
      (Kind.slash_not_mem_plural _) parts
    obtain ⟨spaces, names⟩ := eq_of_divided_front ha.ns_slash hb.ns_slash rest
    exact ⟨Kind.plural_inj kinds, String.toList_inj.1 spaces, String.toList_inj.1 names⟩
  · rintro ⟨kinds, rfl, rfl⟩
    rw [← String.toList_inj, ha.finalizationId, hb.finalizationId, kinds]
  · rw [vaultPath_withSlashes, Vault.Client.url_withSlashes]

/-- A role in an engine without a mount path. -/
def unmounted : Role where
  metadata := { name := some "app.reader", ns := some "demo" }
  spec := .gcp { path := "/", secretType := "access_token", project := "ackube", bindings := "" }

/-- A role of the other kind whose mount path looks like the collection of the first one. -/
def lookalike : Role where
  metadata := { name := some "app.reader", ns := some "demo" }
  spec := .aws { path := "roleset/", credentialType := "iam_user" }

theorem lookalike_apart :
    unmounted.Placed "demo" "app.reader" ∧ lookalike.Placed "demo" "app.reader" ∧
      ∀ c : Vault.Client, c.url unmounted.vaultPath ≠ c.url lookalike.vaultPath ∧
        unmounted.finalizationId ≠ lookalike.finalizationId ∧
        (c.withSlashes 2).url (lookalike.withSlashes 1 3).vaultPath = c.url lookalike.vaultPath := by
  have first : unmounted.Placed "demo" "app.reader" :=
    ⟨rfl, rfl, by decide, by decide, by decide⟩
  have second : lookalike.Placed "demo" "app.reader" :=
    ⟨rfl, rfl, by decide, by decide, by decide⟩
  have kinds : unmounted.kind ≠ lookalike.kind := by decide
  refine ⟨first, second, fun c => ?_⟩
  obtain ⟨addresses, ids, slashes⟩ := roles_apart first second c
  exact ⟨fun same => kinds (addresses.1 same).1, fun same => kinds (ids.1 same).1,
    slashes lookalike 1 3 2⟩

end Role
end RoleOperator
