import RapidUpload.Proofs.Bodies
import RapidUpload.Proofs.Mapping

/-!
# What is posted for an upload

The request that creates an upload reaches the server as it was made: its texts may hold quotes,
controls and characters of every plane, and its numbers may be of any sign.

* `Request.Whole`, `Evidence.Whole`: the texts are whole and the integers are short.
* `Request.portable_body`: the body of such a request is read back.
* `HttpClient.createUpload_posts`: so is what a client posts, in ASCII.
-/

namespace RapidUpload

open Step

/-- Every text of the evidence is whole. -/
def Evidence.Whole : Evidence → Prop
  | .preHash hash => Text.Whole hash
  | .fullHash hash proof version hashName =>
    Text.Whole hash ∧ Text.Whole proof ∧ Text.Whole version ∧ Text.Whole hashName

namespace Request

/-- The drive goes by a text, every text is whole, and every integer is short. -/
structure Whole (r : Request) : Prop where
  drive : ∃ t, r.driveId = .str t ∧ Text.Whole t
  name : Text.Whole r.name
  parent : Text.Whole r.parentId
  mode : Text.Whole r.checkNameMode
  size : Integer.Short r.size
  parts : ∀ part ∈ r.parts, Integer.Short part.number

theorem portable_part {part : Part} (h : Integer.Short part.number) (room : Nat) :
    Json.Portable (room + 1) part.toJson :=
  Json.portable_single ⟨"part_number", by decide⟩ (.int h)

theorem whole_names {keys : List String}
    (h : keys.Nodup ∧ ∀ key ∈ keys, key = Text.ofString key) :
    keys.Nodup ∧ ∀ key ∈ keys, Text.Whole key :=
  ⟨h.1, fun key hkey => ⟨key, h.2 key hkey⟩⟩

/-- The names of the fields of a body are distinct, and whole. -/
theorem names_body (evidence : Option Evidence) :
    (names ++ (evidence.map Evidence.names).getD []).Nodup ∧
      ∀ key ∈ names ++ (evidence.map Evidence.names).getD [], Text.Whole key :=
  match evidence with
  | none => @whole_names names (by decide)
  | some (.preHash _) => @whole_names (names ++ ["pre_hash"]) (by decide)
  | some (.fullHash _ _ _ _) =>
    @whole_names (names ++ ["content_hash", "content_hash_name", "proof_code", "proof_version"])
      (by decide)

theorem portable_evidence {evidence : Option Evidence} (h : ∀ e ∈ evidence, e.Whole) (room : Nat) :
    ∀ f ∈ (evidence.map Evidence.fields).getD [], Json.Portable room f.2 := by
  match evidence with
  | none => exact List.forall_mem_nil _
  | some (.preHash hash) => exact List.forall_mem_singleton.mpr (.str (h _ rfl))
  | some (.fullHash hash proof version hashName) =>
    obtain ⟨hhash, hproof, hversion, hname⟩ := h _ rfl
    simp only [Evidence.fields, Option.map_some, Option.getD_some, List.forall_mem_cons]
    exact ⟨.str hhash, .str hname, .str hproof, .str hversion, List.forall_mem_nil _⟩

/-- **The body** of a request is read back. -/
theorem portable_body {r : Request} (hr : r.Whole) {evidence : Option Evidence}
    (he : ∀ e ∈ evidence, e.Whole) {room : Nat} (hroom : 3 ≤ room) :
    Json.Portable room (r.body evidence) := by
  obtain ⟨room, rfl⟩ : ∃ n, room = n + 3 := ⟨room - 3, by omega⟩
  obtain ⟨hdistinct, hkeys⟩ := names_body evidence
  obtain ⟨fields', hfields, hnames⟩ := r.keys_body evidence
  cases hfields
  rw [← hnames] at hdistinct hkeys
  obtain ⟨drive, hdrive, hwhole⟩ := hr.drive
  refine .obj ?_ (fun f hf => hkeys _ (List.mem_map_of_mem hf)) hdistinct
  refine List.forall_mem_append.mpr ⟨?_, portable_evidence he _⟩
  have hparts : Json.Portable (room + 2) (.arr (r.parts.map Part.toJson)) := by
    refine .arr fun v hv => ?_
    obtain ⟨part, hpart, rfl⟩ := List.mem_map.mp hv
    exact portable_part (hr.parts part hpart) room
  have htype : Text.Whole "file" := ⟨"file", by decide⟩
  simp only [fields, hdrive, List.forall_mem_cons]
  exact ⟨.str hr.mode, .str hwhole, .str hr.name, .str hr.parent, hparts, .int hr.size, .str htype,
    List.forall_mem_nil _⟩

end Request

namespace HttpClient

variable {τ : Type} [Transport τ]

/-- **Creating an upload** posts the body of the request in ASCII, and a client that is answered
with the text of the post reads the body, its fields in their order.  What it finds there is that of
`Request.describedIn_body` and `Request.statedIn_body`. -/
theorem createUpload_posts {s : Logged (HttpClient (Metered τ))} (h : s.state.Ready)
    (hroom : 3 ≤ s.state.room) {r : Request} (hr : r.Whole) {evidence : Option Evidence}
    (he : ∀ e ∈ evidence, e.Whole) :
    Ends (DriveService.createUpload (r.body evidence)).outcome s
      (fun _ t => ∃ post : Post,
        Traffic.requests t.state.transport.traffic =
          Traffic.requests s.state.transport.traffic ++ [.inl post] ∧
        (∀ c ∈ post.data.toList, c.toNat < 128) ∧
        decode s.state.room post.data = .ok (r.body evidence))
      (fun _ _ => False) := by
  have hbody := r.portable_body hr he hroom
  have hwritten : ((r.body evidence).orElse (.obj [])).Fits (s.state.room + 1) :=
    hbody.fits.mono (Nat.le_succ _)
  refine (request_replies h createEndpoint hwritten).mono ?_ fun _ _ h => h
  rintro _ t ⟨-, ht⟩
  refine ⟨posting s.state.config s.state.token createEndpoint (r.body evidence), ?_, ?_, ?_⟩
  · rw [ht]
    exact s.state.requests_exchange createEndpoint (r.body evidence)
  · have htruthy : (r.body evidence).orElse (.obj []) = r.body evidence := rfl
    rw [posting, htruthy, Json.wire, String.toList_ofList]
    exact hbody.ascii
  · exact decode_wire hbody

end HttpClient

namespace Rehearsal

/-- A name with a quote, a backslash, controls and characters of high planes. -/
def strangeName : String := Text.ofString (String.ofList
  ['"', '\\', '\n', Char.ofNat 1, Char.ofNat 127, 'ß', Char.ofNat 0x1f600, Char.ofNat 0x10ffff])

/-- A request for a file of that name, with parts of any number. -/
def strangeRequest : Request :=
  ⟨.str strangeName, strangeName, strangeName, -1, [⟨0, ""⟩, ⟨-7, ""⟩], strangeName⟩

theorem strangeName_whole : Text.Whole strangeName := ⟨_, rfl⟩

theorem strangeRequest_whole : strangeRequest.Whole :=
  ⟨⟨_, rfl, strangeName_whole⟩, strangeName_whole, strangeName_whole, strangeName_whole,
    by decide, by decide⟩

/-- Evidence of such texts. -/
def strangeEvidence : Evidence := .fullHash strangeName strangeName strangeName strangeName

theorem strangeEvidence_whole : ∀ e ∈ some strangeEvidence, e.Whole := by
  rintro _ ⟨⟩
  exact ⟨strangeName_whole, strangeName_whole, strangeName_whole, strangeName_whole⟩

end Rehearsal

namespace HttpClient

open Rehearsal

/-- Such a request is posted to a server that refuses it. -/
theorem createUpload_posts_strange :
    (answered (refused "NotFound.File")).state.Ready ∧ strangeRequest.Whole ∧
    Ends (DriveService.createUpload (strangeRequest.body (some strangeEvidence))).outcome
      (answered (refused "NotFound.File"))
      (fun _ t => ∃ post : Post, Traffic.requests t.state.transport.traffic = [.inl post] ∧
        (∀ c ∈ post.data.toList, c.toNat < 128) ∧
        decode Json.depthLimit post.data = .ok (strangeRequest.body (some strangeEvidence)))
      (fun _ _ => False) := by
  refine ⟨ready_answered _, strangeRequest_whole, ?_⟩
  have hroom : 3 ≤ (answered (refused "NotFound.File")).state.room := by
    rw [room_answered]
    decide
  refine (createUpload_posts (ready_answered (refused "NotFound.File")) hroom strangeRequest_whole
    strangeEvidence_whole).mono ?_ fun _ _ h => h
  rintro _ t ⟨post, hpost, hascii, hdata⟩
  rw [requests_answered, List.nil_append] at hpost
  rw [room_answered] at hdata
  exact ⟨post, hpost, hascii, hdata⟩

end HttpClient

end RapidUpload
