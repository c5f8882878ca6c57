import RapidUpload.Proofs.Fitting
import RapidUpload.Request

/-!
# What a body says

The body of a request that creates an upload, field by field: every phase describes the file and
the parts wanted, and adds the fields of its own evidence, and none of another phase.

* `Request.DescribedIn`, `Evidence.StatedIn`: what is found in a body under each name.
* `Request.keys_body`: the names in a body, in their order.
* `Request.describedIn_body`, `Request.statedIn_body`: the body of a request holds what it should.
* `Request.fits_body`: it can be written where its numbers have texts.
-/

namespace RapidUpload

namespace Evidence

/-- The names of the fields of a piece of evidence. -/
def names : Evidence → List String
  | .preHash _ => ["pre_hash"]
  | .fullHash _ _ _ _ => ["content_hash", "content_hash_name", "proof_code", "proof_version"]

/-- A body shows this evidence under its names, and under the names of the other phase nothing. -/
def StatedIn (body : Json) : Option Evidence → Prop
  | none => ∀ key ∈ ["pre_hash", "content_hash", "content_hash_name", "proof_code",
      "proof_version"], body.get? key = none
  | some (.preHash hash) => body.get? "pre_hash" = some (.str hash) ∧
      ∀ key ∈ ["content_hash", "content_hash_name", "proof_code", "proof_version"],
        body.get? key = none
  | some (.fullHash hash proof version hashName) =>
    body.get? "content_hash" = some (.str hash) ∧
      body.get? "content_hash_name" = some (.str hashName) ∧
      body.get? "proof_code" = some (.str proof) ∧
      body.get? "proof_version" = some (.str version) ∧ body.get? "pre_hash" = none

end Evidence

namespace Request

/-- The names of the fields that every phase sends. -/
def names : List String :=
  ["check_name_mode", "drive_id", "name", "parent_file_id", "part_info_list", "size", "type"]

/-- A body describes the file of a request, and lists the parts wanted by their numbers alone. -/
structure DescribedIn (body : Json) (r : Request) : Prop where
  mode : body.get? "check_name_mode" = some (.str r.checkNameMode)
  drive : body.get? "drive_id" = some r.driveId
  name : body.get? "name" = some (.str r.name)
  parent : body.get? "parent_file_id" = some (.str r.parentId)
  parts : body.get? "part_info_list" =
    some (.arr (r.parts.map fun part => .obj [("part_number", .int part.number)]))
  size : body.get? "size" = some (.int r.size)
  kind : body.get? "type" = some (.str "file")

variable (r : Request) (evidence : Option Evidence)

/-- A body has the names of every phase, and then those of its evidence. -/
theorem keys_body : ∃ fields, r.body evidence = .obj fields ∧
    fields.map Prod.fst = names ++ (evidence.map Evidence.names).getD [] :=
  match evidence with
  | none | some (.preHash _) | some (.fullHash _ _ _ _) => ⟨_, rfl, rfl⟩

/-- **What every phase says**: the body describes the file of its request. -/
theorem describedIn_body : DescribedIn (r.body evidence) r :=
  match evidence with
  | none | some (.preHash _) | some (.fullHash _ _ _ _) => ⟨rfl, rfl, rfl, rfl, rfl, rfl, rfl⟩

/-- **What a phase shows**: the body states its evidence, and none of the other phase. -/
theorem statedIn_body : Evidence.StatedIn (r.body evidence) evidence :=
  match evidence with
  | none => by
    simp only [Evidence.StatedIn, List.forall_mem_cons]
    exact ⟨rfl, rfl, rfl, rfl, rfl, fun _ h => nomatch h⟩
  | some (.preHash _) => by
    simp only [Evidence.StatedIn, List.forall_mem_cons]
    exact ⟨rfl, rfl, rfl, rfl, rfl, fun _ h => nomatch h⟩
  | some (.fullHash _ _ _ _) => ⟨rfl, rfl, rfl, rfl, rfl⟩

variable {r evidence}

/-- A body keeps within the limits where its drive and its numbers do. -/
theorem fits_body {room : Nat} (hroom : 2 ≤ room) (hdrive : r.driveId.Fits room)
    (hsize : Integer.Short r.size) (hparts : ∀ part ∈ r.parts, Integer.Short part.number) :
    (r.body evidence).Fits (room + 1) := by
  obtain ⟨room, rfl⟩ : ∃ n, room = n + 2 := ⟨room - 2, by omega⟩
  refine .obj (List.forall_mem_append.mpr ⟨?_, ?_⟩)
  · have hlisted : (Json.arr (r.parts.map Part.toJson)).Fits (room + 2) := by
      refine .arr fun v hv => ?_
      obtain ⟨part, hpart, rfl⟩ := List.mem_map.mp hv
      exact .obj (List.forall_mem_singleton.mpr (.int (hparts part hpart)))
    simp only [fields, List.forall_mem_cons]
    exact ⟨.str _, hdrive, .str _, .str _, hlisted, .int hsize, .str _, fun _ h => nomatch h⟩
  · match evidence with
    | none => exact fun _ h => nomatch h
    | some (.preHash _) => exact List.forall_mem_singleton.mpr (.str _)
    | some (.fullHash _ _ _ _) =>
      simp only [Option.map_some, Option.getD_some, Evidence.fields, List.forall_mem_cons]
      exact ⟨.str _, .str _, .str _, .str _, fun _ h => nomatch h⟩

end Request

/-- The parts of a size that has a text have numbers with texts. -/
theorem PartSize.short_plan (p : PartSize) {size k : Nat} (hs : size < pow2 k)
    (hk : k ≤ Integer.digitLimit) : ∀ part ∈ p.plan size, Integer.Short part.number := by
  intro part hpart
  obtain ⟨i, hi, rfl⟩ := List.mem_map.mp hpart
  have hcount : p.count size ≤ size := by
    rw [count, Nat.div_le_iff_le_mul_add_pred p.pos]
    have := Nat.le_mul_of_pos_left size p.pos
    omega
  have hnumber : i + 1 ≤ size := Nat.le_trans (List.mem_range.mp hi) hcount
  exact Integer.short_of_lt (Nat.lt_of_le_of_lt hnumber hs) hk

end RapidUpload
