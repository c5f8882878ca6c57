import RapidUpload.Proofs.Blocks
import RapidUpload.Proofs.Plain

/-!
# The news of an upload

A run that uploads a file ends with one line: a label, the name of the file, an arrow, its id, and
the number of parts if any were sent.  The name and the id stand in the line as markup, so they are
shown as they are only where the console finds nothing in them to carry out.

* `Report.label`, `Report.line`: the two halves of the line.
* `Program.report?`: what the upload of a run comes to.
* `Program.run_verbatim`: on a lawful console a run shows a plain line as it is and is done; of the
  lines without a colon it shows no others so.
-/

namespace RapidUpload

open Console (Plain)

/-! ### The line -/

namespace Report

/-- What an upload is called. -/
def label (r : Report) : String := if r.rapid then "Rapid upload:" else "Uploaded:"

/-- The name, the id, and the parts that were sent. -/
def line (r : Report) : String :=
  let file := r.name ++ " -> " ++ r.fileId.shown
  if r.rapid then file else file ++ (" (" ++ toString r.partsUploaded ++ " parts)")

/-- All that the news shows when the line is shown as it is. -/
def news (r : Report) : String := r.label ++ " " ++ r.line ++ "\n"

theorem isLabel (r : Report) : Console.Markup.IsLabel r.label.toList := by
  have hrapid : "Rapid upload:".toList = "Rapid upload".toList ++ [':'] := by decide +kernel
  have hslow : "Uploaded:".toList = "Uploaded".toList ++ [':'] := by decide +kernel
  unfold label
  cases r.rapid with
  | true =>
    rw [if_pos rfl, hrapid]
    exact Console.Markup.isLabel_of_harmless (by decide +kernel)
  | false =>
    rw [if_neg Bool.false_ne_true, hslow]
    exact Console.Markup.isLabel_of_harmless (by decide +kernel)

end Report

namespace Ending

open Console.Markup

/-- The news of an upload is its line behind its label. -/
theorem uploaded_eq (c : Console) (r : Report) :
    uploaded c r = line c .done (String.ofList (labeled r.label.toList r.line.toList)) := by
  have hrapid : "[green]Rapid upload:[/green] ".toList
      = labeled "Rapid upload:".toList [] := by decide +kernel
  have hslow : "[green]Uploaded:[/green] ".toList = labeled "Uploaded:".toList [] := by
    decide +kernel
  have happend : ∀ {lead word : String} (text : String), lead.toList = labeled word.toList [] →
      lead ++ text = String.ofList (labeled word.toList text.toList) := by
    intro lead word text h
    refine String.toList_inj.mp ?_
    rw [String.toList_append, String.toList_ofList, h]
    simp [labeled]
  unfold uploaded Report.label Report.line
  cases r.rapid with
  | true => exact congrArg (line c .done) (happend _ hrapid)
  | false => exact congrArg (line c .done) ((String.append_assoc ..).trans (happend _ hslow))

end Ending

namespace Program

variable {τ : Type} [Transport τ]

/-- What the upload of a run comes to, where the run comes to an upload that ends well. -/
def report? (bar : ProgressBar (HttpClient τ)) (args : List String) (m : Machine τ) :
    Option Report :=
  match Command.read m.token args with
  | .ok (.upload order access) =>
    if m.disk.isFile order.file then
      (tokenOf access).bind fun token =>
        let uploads :=
          { UploadConfig.standard with
            rapid := order.rapid
            tempFolder := order.tempFolder.map Path.normal }
        (withClient access token uploads (upload bar order) m).1.toOption
    else none
  | _ => none

variable {bar : ProgressBar (HttpClient τ)} {args : List String} {m : Machine τ} {r : Report}

/-- What is done with a client leaves the console. -/
theorem withClient_console {β : Type} (access : Access) (token : String) (uploads : UploadConfig)
    (body : Act (Client (HttpClient τ)) β) (m : Machine τ) :
    (withClient access token uploads body m).2.console = m.console := by
  unfold withClient
  dsimp only
  split <;> rfl

/-- Such a run ends with the news. -/
theorem run_of_report (h : report? bar args m = some r) :
    (run bar args m).1 = .uploaded m.console r := by
  unfold report? at h
  unfold run
  split at h
  · rename_i order access hread
    rw [hread]
    unfold carryOut
    dsimp only
    split at h
    · rename_i hfile
      rw [hfile, if_neg (by decide)]
      cases htoken : tokenOf access with
      | none => rw [htoken] at h; cases h
      | some token =>
        rw [htoken] at h
        dsimp only [Option.bind] at h ⊢
        split
        · rename_i report m' hw
          have hconsole : m'.console = m.console :=
            (congrArg (fun w => w.2.console) hw).symm.trans (withClient_console ..)
          rw [hw] at h
          cases h
          exact congrArg (Ending.uploaded · r) hconsole
        · rename_i e m' hw
          rw [hw] at h
          cases h
    · cases h
  · cases h

/-- **The news as it is.** A run whose upload ends well shows the name and the id as they are, and
is done, if the line is plain; and where no colon stands in the line, only if it is. -/
theorem run_verbatim (h : report? bar args m = some r) (hc : m.console.Lawful) :
    (Plain r.line.toList → (run bar args m).1 = ⟨r.news, .ok .done⟩) ∧
      (':' ∉ r.line.toList → (run bar args m).1 = ⟨r.news, .ok .done⟩ → Plain r.line.toList) := by
  have hnews : r.news = String.ofList (r.label.toList ++ ' ' :: r.line.toList ++ ['\n']) := by
    refine String.toList_inj.mp ?_
    simp [Report.news]
  rw [run_of_report h, Ending.uploaded_eq, hnews]
  refine ⟨fun hplain => ?_, fun hcolon hline => ?_⟩
  · rw [Ending.line, hc.plain r.isLabel hplain, Ending.shown]
  · refine hc.plain_of_verbatim r.isLabel hcolon ?_
    unfold Ending.line Ending.shown at hline
    split at hline
    · rename_i text hprint
      rw [(Ending.mk.inj hline).1] at hprint
      exact hprint
    · exact nomatch (Ending.mk.inj hline).2

end Program

namespace Rehearsal

/-- A machine with one file, whose bytes the service has already. -/
def shelf (name : String) : Machine (Metered Wire) :=
  ⟨.new { pooled with
      replies := [.ok ⟨200, .ok "\x7b\"file_id\": \"f\", \"rapid_upload\": true\x7d"⟩] },
    { pooled.disk with entries := [([name], .file ⟨#[1, 2]⟩)] }, Console.standard.encoded,
    some "token"⟩

end Rehearsal

namespace Program

open Rehearsal

/-- A name without markup is shown. -/
theorem run_verbatim_letters :
    let args := ["upload", "a.txt", "--drive-id", "d"]
    (shelf "a.txt").console.Lawful ∧
      ∃ r, report? blank args (shelf "a.txt") = some r ∧ Plain r.line.toList ∧
        (run blank args (shelf "a.txt")).1 = ⟨"Rapid upload: a.txt -> f\n", .ok .done⟩ := by
  dsimp only
  have hlawful : (shelf "a.txt").console.Lawful := Console.lawful_standard
  have hnews : (report? blank ["upload", "a.txt", "--drive-id", "d"] (shelf "a.txt")).map
      (fun r => (r.line, r.news)) = some ("a.txt -> f", "Rapid upload: a.txt -> f\n") := by
    decide +kernel
  obtain ⟨r, hr, hline⟩ := Option.map_eq_some_iff.mp hnews
  obtain ⟨hline, hnews⟩ := Prod.mk.inj hline
  have hplain : Plain r.line.toList := by
    rw [hline]
    exact Console.plain_of_harmless (by decide +kernel)
  have hrun := (run_verbatim hr hlawful).1 hplain
  rw [hnews] at hrun
  exact ⟨hlawful, r, hr, hplain, hrun⟩

/-- A name in brackets loses them with what stands between them. -/
theorem run_not_verbatim :
    let args := ["upload", "a[b].txt", "--drive-id", "d"]
    (report? blank args (shelf "a[b].txt")).map Report.news = some "Rapid upload: a[b].txt -> f\n" ∧
      (run blank args (shelf "a[b].txt")).1.output = "Rapid upload: a.txt -> f\n" := by
  decide +kernel

end Program

end RapidUpload
