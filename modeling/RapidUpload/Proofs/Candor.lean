import RapidUpload.Proofs.Bodies
import RapidUpload.Proofs.Lifetime
import RapidUpload.Proofs.Legible

/-!
# Whose fault it is

An upload of bytes at hand fails only where its service does.  So where nothing else is in the way,
its fault is the library's own exactly as long as the service got replies that can be read.

* `Honest Keep Fine a`: a fault of `a` is the library's own exactly where `Fine` still holds.
* `Listens`: a service that is fine as long as the replies are clear.
* `Coordinator.upload_honest`: an upload over such a service.
-/

namespace RapidUpload

open Step

variable {ρ α β σ : Type}

/-! ### Honest actions -/

/-- From a kept and fine state the action ends in such a state, or in a fault that is the library's
own exactly where the state is still fine. -/
def Honest (Keep Fine : σ → Prop) (a : Act σ β) : Prop :=
  ∀ s, Keep s.state → Fine s.state → Ends a s (fun _ t => Keep t.state ∧ Fine t.state)
    (fun e t => e.isOwn = true ↔ Fine t.state)

/-- The calls of a service keep what is to be kept, and leave it fine exactly where the replies are
clear, as long as what is sent keeps within the limits.  So do the replies, which list no more than
`most` parts. -/
structure Listens [DriveService α] (progress : Option (Progress α)) (Keep Fine : α → Prop)
    (room most : Nat) : Prop where
  create : ∀ body s, Json.Fits (room + 1) body → Keep s.state → Fine s.state →
    Ends (DriveService.createUpload body).outcome s
      (fun x t => Keep t.state ∧ (Fine t.state ↔ CreateReply.Clear x) ∧
        CreateReply.Within room most x)
      (fun _ _ => False)
  put : ∀ url bytes, Honest Keep Fine (DriveService.uploadPart url bytes)
  complete : ∀ driveId fileId uploadId s, Json.Fits room driveId → Json.Fits room fileId →
    Json.Fits room uploadId → Keep s.state → Fine s.state →
    Ends (DriveService.completeUpload driveId fileId uploadId) s
      (fun answer t => answer.Fits (room + 1) ∧ Keep t.state ∧ Fine t.state)
      (fun e t => e.isOwn = true ↔ Fine t.state)
  told : ∀ tell ∈ progress, ∀ n, Honest Keep Fine (tell n)

/-! ### Negotiations -/

section Service

variable [DriveService α] {progress : Option (Progress α)} {Keep Fine : α → Prop}
  {room most : Nat}

/-- A chain of requests leaves a service fine exactly where all its replies are clear; all but the
last one must be, or nothing is known of those that follow. -/
theorem Exchange.Chain.fine_iff (h : Listens progress Keep Fine room most) {request : Request}
    (hbody : ∀ evidence, (request.body evidence).Fits (room + 1)) {a b : α}
    {xs : List (Exchange α)} (hc : Chain request a xs b) (hk : Keep a) (hf : Fine a)
    (hclear : ∀ x ∈ xs.dropLast, CreateReply.Clear x.result) :
    Keep b ∧ (Fine b ↔ ∀ x ∈ xs, CreateReply.Clear x.result) ∧
      ∀ x ∈ xs, CreateReply.Within room most x.result := by
  induction xs generalizing a with
  | nil =>
    obtain rfl : b = a := hc
    exact ⟨hk, iff_of_true hf fun _ h => (nomatch h), fun _ h => nomatch h⟩
  | cons x xs ih =>
    obtain ⟨rfl, hmade, hc⟩ := hc
    obtain ⟨hkeep, hfine, hmost⟩ := ends_of_ok (h.create _ x.before (hbody _) hk hf) hmade
    simp only [List.forall_mem_cons]
    cases xs with
    | nil =>
      obtain rfl : b = x.after.state := hc
      exact ⟨hkeep, ⟨fun hb => ⟨hfine.mp hb, fun _ h => nomatch h⟩, fun hx => hfine.mpr hx.1⟩,
        hmost, fun _ h => nomatch h⟩
    | cons y ys =>
      have hx : CreateReply.Clear x.result := hclear x List.mem_cons_self
      obtain ⟨hkeep', hfine', hmost'⟩ := ih hc hkeep (hfine.mpr hx)
        fun z hz => hclear z (List.mem_cons_of_mem _ hz)
      exact ⟨hkeep', hfine'.trans (and_iff_right hx).symm, hmost, hmost'⟩

/-- **How a negotiation ends** shows whether its service is still fine, unless the size cannot be
told of or the proof cannot be given. -/
theorem Negotiator.Ending.settles_fine [Reader ρ] (h : Listens progress Keep Fine room most)
    {n : Negotiator} {request : Request}
    (hbody : ∀ evidence, (request.body evidence).Fits (room + 1))
    (hshort : Integer.Short request.size) {r : ρ} {spill : Spill} {a b : α}
    {xs : List (Exchange α)} {out : Except Fault Outcome}
    (hend : n.Ending request r spill a xs b out) (hk : Keep a) (hf : Fine a)
    (hprovable : ∀ a, Keep a →
      Possession.Provable spill.disk.limits.reach (DriveService.heldToken a) request.size)
    (husable : spill.Usable) {limit : Nat} {content : ByteArray} (hd : Delivers limit r content)
    (hbudget : n.sampler.budget ≤ limit) (hcopy : Spill.copySize ≤ limit) :
    Keep b ∧ Outcome.Settles room most out (Fine b) := by
  have hh := hend.negotiation.handshake
  obtain ⟨hbefore, -⟩ := hh.clear
  rw [← List.map_dropLast, List.forall_mem_map] at hbefore
  obtain ⟨hkeep, hfine, hwithin⟩ := hend.negotiation.chain.fine_iff h hbody hk hf hbefore
  refine ⟨hkeep, ?_⟩
  cases hend with
  | settled hn hx =>
    have hsettles := hh.settles (List.forall_mem_map.mpr hwithin) hx
    rw [List.forall_mem_map] at hsettles
    exact hsettles.congr hfine.symm
  | untold _ hlong => exact absurd hshort hlong
  | unsettled hn hx he =>
    obtain ⟨-, hunprovable⟩ := he husable hd hbudget hcopy
    exact (not_unprovable (hprovable b hkeep) hshort _ hunprovable).elim

/-! ### Transfers -/

namespace Transfer

variable [Reader ρ]

/-- Parts of a stream that delivers are sent, or the service fails. -/
theorem sendAll_honest (h : Listens progress Keep Fine room most) {size : PartSize} {limit : Nat}
    (hl : size.bytes ≤ limit) (hs : size.bytes < pow2 63) (count : Int) :
    ∀ (parts : List Part) (n : Nat) (s : Logged (ρ × α)) {content : ByteArray},
      (∀ part ∈ parts, Integer.Short part.number) → Delivers limit s.state.1 content →
      Keep s.state.2 → Fine s.state.2 →
      Ends (sendAll size count progress parts n) s (fun _ t => Keep t.state.2 ∧ Fine t.state.2)
        (fun e t => e.isOwn = true ↔ Fine t.state.2)
  | [], n, s, content, _, _, hk, hf => ends_pure.mpr ⟨hk, hf⟩
  | part :: parts, n, s, content, hnumbers, hd, hk, hf => by
    obtain ⟨hnumber, hnumbers⟩ := List.forall_mem_cons.mp hnumbers
    unfold sendAll send
    rw [ends_bind, ends_part, ends_quiet]
    refine (readUpTo_ends hd).mono ?_ fun e t h => absurd h (Nat.not_lt.mpr hl)
    rintro bytes r ⟨rfl, hr⟩
    rw [ends_bind, ends_bind, ends_ofExcept]
    have hsmall : (content.window 0 size.bytes).size < pow2 63 :=
      Nat.lt_of_le_of_lt (ByteArray.size_window .. ▸ Nat.min_le_left _ _) hs
    refine ⟨fun text _ => ?_, fun e he =>
      absurd he (Size.inUnit_ok (by decide) hsmall (by decide) e)⟩
    rw [ends_bind, Integer.text_of_short hnumber]
    refine ends_pure.mpr ?_
    rw [ends_bind, ends_tell, ends_bind, ends_outcome, ends_part]
    refine (h.put _ _ _ hk hf).mono ?_ ?_
    · rintro _ t ⟨hk, hf⟩
      rw [ends_tell, ends_bind]
      -- the percentage is told, and then come the other parts
      have next : ∀ t : Logged (ρ × α), t.state.1 = r → Keep t.state.2 → Fine t.state.2 →
          Ends (sendAll size count progress parts (n + 1)) t
            (fun _ t => Keep t.state.2 ∧ Fine t.state.2)
            (fun e t => e.isOwn = true ↔ Fine t.state.2) := fun t ht =>
        sendAll_honest h hl hs count parts (n + 1) t hnumbers (ht ▸ hr)
      unfold report
      split
      · rename_i p tell _
        rw [ends_part]
        refine (h.told tell rfl p _ (by exact hk) (by exact hf)).mono ?_ fun _ _ he => he
        rintro _ t ⟨hk, hf⟩
        exact next ⟨(r, t.state), t.log⟩ rfl hk hf
      · exact ends_pure.mpr (next _ rfl hk hf)
    · rintro e t he
      rw [ends_bind, ends_tell, ends_fail]
      exact he

/-- So are all parts in the order of their numbers, if their sizes can be told of together. -/
theorem run_honest (h : Listens progress Keep Fine room most) {size : PartSize} {limit : Nat}
    (hl : size.bytes ≤ limit) (hm : most * size.bytes < pow2 1000) (hs : size.bytes < pow2 63)
    {parts : List Part} (hp : parts.length ≤ most)
    (hnumbers : ∀ part ∈ parts, Integer.Short part.number) (count : Int) (s : Logged (ρ × α))
    {content : ByteArray} (hd : Delivers limit s.state.1 content) (hk : Keep s.state.2)
    (hf : Fine s.state.2) :
    Ends (run size parts count progress) s (fun _ t => Keep t.state.2 ∧ Fine t.state.2)
      (fun e t => e.isOwn = true ↔ Fine t.state.2) := by
  unfold run
  dsimp only
  rw [ends_bind, ends_ofExcept, length_ordered]
  have hsmall : parts.length * size.bytes < pow2 1000 :=
    Nat.lt_of_le_of_lt (Nat.mul_le_mul_right _ hp) hm
  refine ⟨fun text _ => ?_, fun e he =>
    absurd he (Size.inUnit_ok (by decide) hsmall (Nat.le_refl _) e)⟩
  rw [ends_bind, ends_tell]
  exact sendAll_honest h hl hs count _ 0 _
    (fun part hpart => hnumbers part ((ordered_perm parts).mem_iff.mp hpart)) hd hk hf

end Transfer

/-! ### Uploads -/

/-- Nothing of an upload's own stands in its way: a temp file can be made, memory has room for what
is read, and the sizes of `most` parts can be told of together. -/
structure UploadConfig.Able (config : UploadConfig) (disk : Disk) (most : Nat) : Prop where
  usable : (Spill.new disk config.tempFolder).Usable
  budget : config.sampler.budget < pow2 63
  partSize : config.partSize.bytes ≤ disk.limits.largest
  total : most * config.partSize.bytes < pow2 1000

/-- Bytes open as themselves, under a name and a size. -/
theorem Source.enter_bytes {disk : Disk} {name : Option String} {size : Option Int}
    {content : ByteArray} (hname : given name "" ≠ "") {n : Nat}
    (hsize : size.getD content.size = n) (s : Logged σ) :
    enter disk name size (.bytes content : Origin ρ) s =
      .ok ⟨.bytes (.ofBytes content), given name "", n⟩ s := by
  unfold enter resolve
  rw [pure_bind]
  dsimp only
  rw [if_neg hname, hsize, if_neg (by omega), Int.toNat_natCast]
  rfl

variable [Reader ρ] {limit : Nat} {content : ByteArray}

/-- A negotiation of bytes at hand comes to an outcome, with the bytes where they are needed, or its
service fails. -/
theorem Negotiator.negotiate_honest (h : Listens progress Keep Fine room most) (n : Negotiator)
    {request : Request} (hbody : ∀ evidence, (request.body evidence).Fits (room + 1))
    (hshort : Integer.Short request.size) {r : ρ} {s : Logged (Scene ρ α)}
    (hfresh : s.state.spill.handle = none) (husable : s.state.spill.Usable)
    (hd : Delivers limit r content) (hbudget : n.sampler.budget ≤ limit)
    (hcopy : Spill.copySize ≤ limit)
    (hprovable : ∀ a, Keep a → Possession.Provable s.state.spill.disk.limits.reach
      (DriveService.heldToken a) request.size)
    (hk : Keep s.state.service) (hf : Fine s.state.service) :
    Ends (n.negotiate request r) s
      (fun out t => Keep t.state.service ∧ Fine t.state.service ∧ out.Within room most ∧
        (out.stage.isRapid = false → ∃ supply, out.supply = some supply ∧
          Supplies t.state s.state.spill.disk.limits limit content supply))
      (fun e t => e.isOwn = true ↔ Fine t.state.service) := by
  refine (n.negotiate_ends request s r hfresh).mono ?_ ?_
  · rintro out t ⟨⟨xs, hend⟩, hsupplies⟩
    obtain ⟨hkeep, hfine, hwithin⟩ :=
      hend.settles_fine h hbody hshort hk hf hprovable husable hd hbudget hcopy
    refine ⟨hkeep, hfine, hwithin out rfl, fun hr => ?_⟩
    obtain ⟨-, hx⟩ := hend.settles
    obtain ⟨answer, supply, hinto⟩ := settle_ok hx hr
    obtain ⟨session, -, rfl⟩ := Outcome.into_ok hinto
    exact ⟨supply, rfl, hsupplies supply rfl hd⟩
  · rintro e t ⟨xs, hend⟩
    exact (hend.settles_fine h hbody hshort hk hf hprovable husable hd hbudget hcopy).2.1

namespace Coordinator

/-- Parts are transferred from where the bytes are. -/
theorem transfer_honest (h : Listens progress Keep Fine room most) {c : Coordinator} {disk : Disk}
    (hable : c.config.Able disk most) {out : Outcome} {supply : Supply}
    (hsupply : out.supply = some supply) (hout : out.Within room most) (count : Nat)
    (s : Logged (Scene ρ α))
    (hsupplies : Negotiator.Supplies s.state disk.limits (pow2 63 - 1) content supply)
    (hk : Keep s.state.service) (hf : Fine s.state.service) :
    Ends (c.transfer out count progress) s
      (fun _ t => Keep t.state.service ∧ Fine t.state.service)
      (fun e t => e.isOwn = true ↔ Fine t.state.service) := by
  have hsize : c.config.partSize.bytes < pow2 63 :=
    Nat.lt_of_le_of_lt hable.partSize disk.limits.largest_lt_pow2
  unfold transfer
  rw [hsupply]
  cases supply with
  | replay =>
    exact ends_part.mpr (Transfer.run_honest h (Nat.le_sub_one_of_lt hsize) hable.total hsize
      hout.listed hout.numbered count _ hsupplies hk hf)
  | spill =>
    exact ends_part.mpr (Transfer.run_honest h hable.partSize hable.total hsize hout.listed
      hout.numbered count _ hsupplies hk hf)

/-- What was negotiated is carried out. -/
theorem deliver_honest (h : Listens progress Keep Fine room most) {c : Coordinator}
    {s : Logged (Scene ρ α)} (hfresh : s.state.spill.handle = none)
    (hable : c.config.Able s.state.spill.disk most)
    (hspill : s.state.spill = .new s.state.spill.disk c.config.tempFolder) (rapid : Bool)
    {request : Request} (hbody : ∀ evidence, (request.body evidence).Fits (room + 1))
    (hshort : Integer.Short request.size) {r : ρ} (hd : Delivers (pow2 63 - 1) r content)
    (hprovable : ∀ a, Keep a → Possession.Provable s.state.spill.disk.limits.reach
      (DriveService.heldToken a) request.size)
    (hk : Keep s.state.service) (hf : Fine s.state.service) :
    Ends (c.deliver rapid request r progress) s
      (fun p t => Keep t.state.service ∧ Fine t.state.service ∧ p.1.Within room most)
      (fun e t => e.isOwn = true ↔ Fine t.state.service) := by
  unfold deliver
  rw [ends_bind]
  refine (Negotiator.negotiate_honest h ⟨rapid, c.config.sampler⟩ hbody hshort hfresh
    (hspill ▸ hable.usable) hd (Nat.le_sub_one_of_lt hable.budget) (by decide) hprovable hk
    hf).mono ?_ fun _ _ h => h
  rintro out t ⟨hk, hf, hout, htransfer⟩
  split
  · rw [ends_bind, ends_tell, ends_pure]
    exact ⟨hk, hf, hout⟩
  · rename_i hr
    obtain ⟨supply, hsupply, hsupplies⟩ := htransfer (Bool.not_eq_true _ ▸ hr)
    rw [ends_bind]
    exact (transfer_honest h hable hsupply hout _ t hsupplies hk hf).mono
      (fun _ _ ht => ends_pure.mpr ⟨ht.1, ht.2, hout⟩) fun _ _ he => he

end Coordinator

/-- A completion that does not name the file is a fault of the library's own. -/
theorem Completion.complete_honest (h : Listens progress Keep Fine room most) {driveId : Json}
    (hdrive : driveId.Fits room) {session : Session}
    (hsession : session.fileId.Fits room ∧ session.uploadId.Fits room) :
    Honest Keep Fine (complete driveId session : Act α Json) := by
  intro s hk hf
  unfold complete
  rw [Json.told_of_short hsession.1.short, Json.told_of_short hsession.2.short, ends_bind]
  refine ends_pure.mpr ?_
  rw [ends_bind]
  refine ends_pure.mpr ?_
  rw [ends_bind, ends_tell, ends_bind]
  refine (h.complete _ _ _ _ hdrive hsession.1 hsession.2 (by exact hk) (by exact hf)).mono ?_
    fun _ _ he => he
  rintro answer t ⟨hfits, hk, hf⟩
  dsimp only
  rw [Json.told_of_short (hfits.field "file_id").short, ends_bind]
  refine ends_pure.mpr ?_
  split
  · rw [ends_bind, ends_tell, ends_pure]
    exact ⟨hk, hf⟩
  · rw [ends_bind, ends_tell, ends_fail, MismatchCause.fault_of_short _ hfits.short]
    exact iff_of_true rfl hf

/-- **Whose fault it is.**  An upload of bytes over such a service ends in a report, or in a fault
that is the library's own exactly where the service is still fine. -/
theorem Coordinator.upload_honest {c : Coordinator} {call : UploadCall ρ α}
    (h : Listens call.progress Keep Fine room most) (hroom : 2 ≤ room)
    (hdrive : c.driveId.Fits room) {s : Logged (Site α)}
    (hable : c.config.Able s.state.disk most) (horigin : call.origin = .bytes content)
    (hname : Source.given call.name "" ≠ "") {n : Nat} (hsize : call.size.getD content.size = n)
    (hn : n < pow2 63)
    (hprovable : ∀ a, Keep a →
      Possession.Provable s.state.disk.limits.reach (DriveService.heldToken a) n)
    (hk : Keep s.state.service) (hf : Fine s.state.service) :
    Ends (c.upload call) s (fun _ t => Fine t.state.service)
      (fun e t => e.isOwn = true ↔ Fine t.state.service) := by
  have hshort : Integer.Short n := Integer.short_of_lt hn (by decide)
  unfold upload
  dsimp only
  rw [ends_bind, ends_look, ends_bind, horigin]
  refine ends_ok (Source.enter_bytes hname hsize s) ?_
  rw [ends_bind, ends_ofExcept]
  refine ⟨fun text _ => ?_, fun e he =>
    absurd he (Size.inUnit_ok (by decide) hn (by decide) e)⟩
  rw [ends_bind, ends_tell, ends_bind]
  have hdelivers : Delivers (pow2 63 - 1) (Opened.bytes (.ofBytes content) : Opened ρ) content :=
    (Origin.Opens.bytes content).delivers ⟨rfl, by decide⟩
  have hbody : ∀ evidence, ((c.request call.parentId (⟨.bytes (.ofBytes content),
      Source.given call.name "", n⟩ : Source ρ)).body evidence).Fits (room + 1) := fun _ =>
    Request.fits_body hroom hdrive hshort (PartSize.short_plan _ hn (by decide))
  refine Site.ends_withScene.mpr ((deliver_honest h rfl hable rfl _ hbody hshort hdelivers
    hprovable hk hf).mono ?_ fun _ _ he => he)
  rintro ⟨out, sent⟩ t ⟨hk, hf, hout⟩
  dsimp only
  split
  · rename_i session _ hsession
    rw [ends_bind, ends_part]
    refine (Completion.complete_honest h hdrive (hout.session session hsession) _ hk hf).mono ?_
      fun _ _ he => he
    rintro response t ⟨-, hf⟩
    rw [ends_bind, ends_tell, ends_pure]
    exact hf
  · exact ends_pure.mpr hf

end Service

end RapidUpload
