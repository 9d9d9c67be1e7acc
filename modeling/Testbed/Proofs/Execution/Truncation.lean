import Testbed.Proofs.Execution.Listing

/-!
# Listings that are cut short

An output may have room for a number of bytes and refuse everything after them. A listing then puts
there as much of its text as fits, be it that the text breaks off within a name, before a newline or
at the end of a line, and it succeeds exactly if all of its text fits.

* `Sink.Rations` is an output that takes so many bytes in all, however they are offered, and
  `rations_limited` says that a limited one is such.
* `writeNames_of_fits` and `writeNames_of_not_fits` are the two ways in which the first line can go,
  and `writeNames_of_rations` is the run over all of them.
* `listTests_of_rations` is the result for a listing.
-/

namespace Testbed

variable {σ τ : Type}

/-! ## Outputs that ration -/

/-- From `state` on the output takes `room` bytes and refuses what is more for a reason: in some
states there is some room left, and every offer uses up as much of it as it needs. -/
def Sink.Rations (s : Sink τ) (room : Nat) (reason : String) (state : τ) : Prop :=
  ∃ left : Nat → τ → Prop, left room state ∧ ∀ n u, left n u → ∀ bytes, ∃ v,
    s.offer bytes u = (if bytes.length ≤ n then .all else .part n reason, v) ∧
      left (n - bytes.length) v

namespace Sink.Rations

variable {s : Sink τ} {room : Nat} {reason : String} {state : τ}

/-- After an offer there is as much less room as was offered. -/
theorem offer (h : s.Rations room reason state) (bytes : Bytes) :
    ∃ v, s.offer bytes state =
        (if bytes.length ≤ room then .all else .part room reason, v) ∧
      s.Rations (room - bytes.length) reason v := by
  obtain ⟨left, hleft, hoffers⟩ := h
  obtain ⟨v, hoffer, hv⟩ := hoffers room state hleft bytes
  exact ⟨v, hoffer, left, hv, hoffers⟩

end Sink.Rations

/-- A limited output rations what its state says, whether or not it can be flushed. -/
theorem rations_limited (flushFails : Bool) (room : Nat) :
    (Sink.limited flushFails).Rations room Sink.fullReason (some room) := by
  refine ⟨fun n u => u = some n, rfl, ?_⟩
  rintro n u rfl bytes
  by_cases hfits : bytes.length ≤ n
  · exact ⟨some (n - bytes.length), by simp only [Sink.limited, if_pos hfits], rfl⟩
  · have hnone : n - bytes.length = 0 := by omega
    exact ⟨some 0, by simp only [Sink.limited, if_neg hfits], congrArg some hnone.symm⟩

/-! ## Writing names -/

section

variable (env : Env σ τ) (name : String) (rest : List String) {w : World σ τ} {sink : τ}

/-- A line that is taken is followed by the rest. -/
theorem writeNames_of_fits (h : env.sink.offer (lineOf name) w.sink = (.all, sink)) :
    writeNames env (name :: rest) w =
      writeNames env rest
        { w with sink := sink, history := w.history ++ [.wrote (lineOf name)] } := by
  rw [writeNames, write_of_all env h]

/-- A line that is not taken as a whole is the last one. -/
theorem writeNames_of_not_fits {count : Nat} {reason : String}
    (h : env.sink.offer (lineOf name) w.sink = (.part count reason, sink)) :
    writeNames env (name :: rest) w =
      (.error (.listRefused reason),
        { w with
          sink := sink
          history := w.history ++ [.wrote ((lineOf name).take count)] }) := by
  rw [writeNames, write_of_part env h]

end

/-- **Writing names to an output with little room.** What the output takes is the text of all lines
as far as there is room for it. The names are all written exactly if there is room for the whole
text, and nothing is done but writing. -/
theorem writeNames_of_rations (env : Env σ τ) (names : List String) {w : World σ τ} {room : Nat}
    {reason : String} (h : env.sink.Rations room reason w.sink) :
    let text := names.flatMap lineOf
    let run := writeNames env names w
    run.1 = (if text.length ≤ room then .ok successCode else .error (.listRefused reason)) ∧
      run.2.ground = w.ground ∧ env.sink.Rations (room - text.length) reason run.2.sink ∧
      ∃ taken : List Bytes, taken.flatten = text.take room ∧
        deeds run.2.history = deeds w.history ++ taken.map .wrote := by
  induction names generalizing w room with
  | nil => exact ⟨rfl, rfl, h, [], List.take_nil.symm, (List.append_nil _).symm⟩
  | cons name rest ih =>
    intro text run
    have htext : text = lineOf name ++ rest.flatMap lineOf := List.flatMap_cons
    have hlength : text.length = (lineOf name).length + (rest.flatMap lineOf).length := by
      rw [htext, List.length_append]
    obtain ⟨sink, hoffer, hsink⟩ := h.offer (lineOf name)
    by_cases hfits : (lineOf name).length ≤ room
    · rw [if_pos hfits] at hoffer
      let next : World σ τ :=
        { w with sink := sink, history := w.history ++ [.wrote (lineOf name)] }
      have hrun : run = writeNames env rest next := writeNames_of_fits env name rest hoffer
      obtain ⟨hresult, hground, hleft, taken, htaken, hdeeds⟩ := ih (w := next) hsink
      rw [hrun]
      refine ⟨?_, hground, ?_, lineOf name :: taken, ?_, ?_⟩
      · rw [hresult]
        exact if_congr (by omega) rfl rfl
      · rwa [hlength, ← Nat.sub_sub]
      · rw [List.flatten_cons, htaken, htext, List.take_append, List.take_of_length_le hfits]
      · rw [hdeeds, deeds_append, List.append_assoc]
        rfl
    · rw [if_neg hfits] at hoffer
      have hrun := writeNames_of_not_fits env name rest hoffer
      rw [show run = _ from hrun]
      refine ⟨(if_neg (by omega)).symm, rfl, ?_, [(lineOf name).take room], ?_, ?_⟩
      · have hnone : room - text.length = room - (lineOf name).length := by omega
        rwa [hnone]
      · rw [List.flatten_singleton, htext, List.take_append_of_le_length (by omega)]
      · rw [deeds_append]
        rfl

/-! ## Listing -/

/-- **A listing that is cut short.** Where there is nothing to list, nothing is written and the run
fails for that. Otherwise the output holds as much of the text of the listing as it has room for,
and the run succeeds exactly if this is all of it; else it fails with what the output says. Either
way nothing is done but writing: no child is called, the output is not flushed, and the files are as
they were. -/
theorem listTests_of_rations (env : Env σ τ) (buildDir : Path) (layout : Layout) (w : World σ τ)
    (room : Nat) (reason : String) (h : env.sink.Rations room reason w.sink) :
    let targets := discover w.files buildDir layout
    let text := targets.flatMap fun target => lineOf target.name
    let run := listTests env buildDir layout w
    (targets = [] →
      run.1 = .error .nothingToList ∧ written run.2.history = written w.history ∧
      RunError.nothingToList.failure =
        ⟨"[!] Nothing to list. Please build the project first with --build", 1⟩) ∧
    (targets ≠ [] →
      written run.2.history = written w.history ++ text.take room ∧
      (run.1 = .ok 0 ↔ text.length ≤ room) ∧
      (room < text.length → run.1 = .error (.listRefused reason) ∧
        (RunError.listRefused reason).failure = ⟨"Error writing test list: " ++ reason, 1⟩)) ∧
    run.2.ground = w.ground ∧ calls run.2.history = calls w.history ∧
    ∃ taken : List Bytes, deeds run.2.history = deeds w.history ++ taken.map .wrote := by
  intro targets text run
  have hlog := logDiscovery_continues env.runner env buildDir layout w
  have hcalls : calls run.2.history = calls w.history := calls_listTests env buildDir layout w
  by_cases hnil : targets = []
  · have hrun : run = (.error .nothingToList, logDiscovery env buildDir layout w) :=
      if_pos (List.isEmpty_iff.mpr hnil)
    refine ⟨fun _ => ⟨?_, ?_, rfl⟩, fun hne => absurd hnil hne, ?_, hcalls, [], ?_⟩ <;> rw [hrun]
    · exact hlog.written
    · exact hlog.ground
    · exact hlog.deeds
  · have hrun : run =
        writeNames env (targets.map TestTarget.name) (logDiscovery env buildDir layout w) :=
      if_neg fun hempty => hnil (List.isEmpty_iff.mp hempty)
    have htext : (targets.map TestTarget.name).flatMap lineOf = text :=
      List.flatMap_map ..
    obtain ⟨hresult, hground, -, taken, htaken, hdeeds⟩ := writeNames_of_rations env
      (targets.map TestTarget.name) (w := logDiscovery env buildDir layout w) (hlog.sink ▸ h)
    rw [← hrun, htext] at hresult
    rw [← hrun] at hground hdeeds
    rw [htext] at htaken
    have hdone : deeds run.2.history = deeds w.history ++ taken.map .wrote := by
      rw [hdeeds, hlog.deeds, List.map_nil, List.append_nil]
    refine ⟨fun h => absurd h hnil, fun _ => ⟨?_, ?_, fun hlong => ⟨?_, rfl⟩⟩,
      hground.trans hlog.ground, hcalls, taken, hdone⟩
    · rw [← written_deeds, hdone, written_append, written_deeds, written_map_wrote,
        List.flatMap_id', htaken]
    · rw [hresult]
      split
      · next hfits => exact iff_of_true rfl hfits
      · next hfits => exact iff_of_false (nomatch ·) hfits
    · rw [hresult, if_neg (Nat.not_le_of_lt hlong)]

/-- A listing of fourteen bytes, to outputs that have room for the first name without its newline,
for all but the last newline, and for the whole listing; none of them can be flushed. -/
theorem listTests_shortOfNewline :
    let env : Env Unit (Option Nat) := ⟨idle, Sink.limited true, .one, []⟩
    let run (room : Nat) := listTests env (utf8 "/") .testBin ⟨plainTests, (), some room, []⟩
    (written (run 4).2.history = utf8 "list" ∧
      (run 4).1 = .error (.listRefused "sink full")) ∧
    (written (run 13).2.history = utf8 "list\nhash map" ∧
      (run 13).1 = .error (.listRefused "sink full")) ∧
    (written (run 14).2.history = utf8 "list\nhash map\n" ∧ (run 14).1 = .ok 0) := by
  intro env run
  have htext : ((discover plainTests (utf8 "/") .testBin).flatMap fun t => lineOf t.name) =
      utf8 "list\nhash map\n" := by decide
  have hne : discover plainTests (utf8 "/") .testBin ≠ [] := by decide
  have h (room : Nat) := (listTests_of_rations env (utf8 "/") .testBin
    ⟨plainTests, (), some room, []⟩ room Sink.fullReason (rations_limited true room)).2.1 hne
  simp only [htext] at h
  exact ⟨⟨(h 4).1, ((h 4).2.2 (by decide)).1⟩, ⟨(h 13).1, ((h 13).2.2 (by decide)).1⟩,
    (h 14).1, (h 14).2.1.mpr (by decide)⟩

end Testbed
