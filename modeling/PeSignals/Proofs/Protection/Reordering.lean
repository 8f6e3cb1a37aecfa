import Mathlib
import PeSignals.Image.Writer
import PeSignals.Proofs.Protection.Classification
import PeSignals.Proofs.Protection.Executable
import PeSignals.Proofs.Protection.Survey
import PeSignals.Proofs.Protection.Verdict

/-!
# Executables in another order

What an executable contributes does not depend on what was looked at before it, and whatever gives a
scheme away does so with the confidence that is usual for the scheme. So the order of the executables
shows in the order of detections and notes and in the evidence, and in nothing else.
-/
namespace PeSignals.Protection

open Files (FileTree Path)

variable {t : FileTree} {settings : Settings}

/-! ## Confidence -/

/-- The confidence with which a scheme is detected. -/
def Scheme.usualConfidence : Scheme → Confidence
  | steamStub | epicOnlineServices | eaOrigin | ubisoftConnect => .high
  | _ => .medium

/-- Whether every detection has the confidence that is usual for its scheme. -/
def AreUsual (ds : List Detection) : Prop := ∀ d ∈ ds, d.confidence = d.scheme.usualConfidence

theorem AreUsual.append {ds more : List Detection} (h : AreUsual ds) (hmore : AreUsual more) :
    AreUsual (ds ++ more) :=
  List.forall_mem_append.mpr ⟨h, hmore⟩

theorem areUsual_imageSignals (path : Path) (image : Image) :
    AreUsual (imageSignals t settings path image).value.detections := by
  have hwhen {found : Bool} {d : Detection} (h : d.confidence = d.scheme.usualConfidence) :
      AreUsual (if found = true then [d] else []) := by
    split_ifs
    · exact List.forall_mem_singleton.mpr h
    · exact List.forall_mem_nil _
  -- The signals of an image are one list for each test, empty or of one detection.
  simp only [imageSignals]
  repeat' apply AreUsual.append
  all_goals exact hwhen rfl

theorem areUsual_executableSignals (path : Path) :
    AreUsual (executableSignals t settings path).value.detections := by
  rw [executableSignals, executableSignalsIn]
  simp only
  split
  · exact List.forall_mem_nil _
  · exact areUsual_imageSignals path _

theorem areUsual_signalsOf (executables : List Path) :
    AreUsual (signalsOf t settings executables).detections := by
  intro d hd
  obtain ⟨_, hs, hd⟩ := List.mem_flatMap.mp hd
  obtain ⟨path, -, rfl⟩ := List.mem_map.mp hs
  exact areUsual_executableSignals path d hd

theorem areUsual_signalsBelow (root : Path) : AreUsual (signalsBelow t root).detections := by
  have hmap {α : Type} {items : List α} {f : α → Detection}
      (h : ∀ a, (f a).confidence = (f a).scheme.usualConfidence) : AreUsual (items.map f) :=
    List.forall_mem_map.mpr fun a _ => h a
  refine AreUsual.append ?_ ?_
  · rw [steamSignalsIn]
    split
    · exact hmap fun _ => rfl
    · exact List.forall_mem_nil _
  · rw [nameSignalsIn]
    split
    · exact hmap fun _ => rfl
    · exact List.forall_mem_nil _

/-! ## Signals in another order -/

/-- The scheme of a detection with its confidence, without the evidence. -/
def Detection.rated (d : Detection) : Scheme × Confidence := (d.scheme, d.confidence)

/-- Signals that differ in the order of detections and notes alone. -/
structure Signals.IsReordered (s next : Signals) : Prop where
  detections : s.detections.Perm next.detections
  notes : s.notes.Perm next.notes
  steamPaths : s.steamPaths = next.steamPaths
  steamworks : s.steamworks = next.steamworks
  online : s.online = next.online
  launcher : s.launcher = next.launcher

/-- Executables leave no paths of Steam libraries; only the files of a directory do. -/
theorem steamPaths_signalsOf (executables : List Path) :
    (signalsOf t settings executables).steamPaths = [] := by
  simp only [signalsOf, Signals.join, List.flatMap_map, (areOfOne_executableSignals _ _ _).steamPaths,
    List.flatMap_eq_nil_iff, implies_true]

/-- Other orders of the executables give the same signals in another order. -/
theorem signalsOf_perm {executables others : List Path} (h : executables.Perm others) :
    (signalsOf t settings executables).IsReordered (signalsOf t settings others) := by
  have hsignals := h.map fun path => (executableSignals t settings path).value
  exact ⟨hsignals.flatMap_right _, hsignals.flatMap_right _,
    (steamPaths_signalsOf executables).trans (steamPaths_signalsOf others).symm, hsignals.any_eq,
    hsignals.any_eq, hsignals.any_eq⟩

theorem Signals.IsReordered.followedBy {s next : Signals} (h : s.IsReordered next) (rest : Signals) :
    (s.followedBy rest).IsReordered (next.followedBy rest) where
  detections := h.detections.append_right _
  notes := h.notes.append_right _
  steamPaths := congrArg (· ++ rest.steamPaths) h.steamPaths
  steamworks := congrArg (· || rest.steamworks) h.steamworks
  online := congrArg (· || rest.online) h.online
  launcher := congrArg (· || rest.launcher) h.launcher

/-! ## Analyses in another order -/

/-- Analyses that differ in the order of detections and notes and in the evidence alone. -/
structure Analysis.IsReordered (a b : Analysis) : Prop where
  detected : (a.detected.map Detection.rated).Perm (b.detected.map Detection.rated)
  notes : a.notes.Perm b.notes
  steamPaths : a.steamPaths = b.steamPaths
  errors : a.errors = b.errors
  steamworks : a.steamworks = b.steamworks
  launcher : a.launcher = b.launcher
  online : a.online = b.online
  executables : a.executables = b.executables
  primary : a.primary = b.primary
  verdict : a.verdict = b.verdict

/-- Under the usual confidences, the schemes alone tell the rated detections. -/
theorem map_rated_firsts {seen : List Scheme} {ds : List Detection} (h : AreUsual ds) :
    (firsts seen ds).map Detection.rated =
      ((firsts seen ds).map (·.scheme)).map fun s => (s, s.usualConfidence) := by
  rw [List.map_map]
  refine List.map_congr_left fun d hd => ?_
  rw [Detection.rated, h d ((firsts_sublist seen ds).subset hd)]
  rfl

/-- The first detections of the same detections in another order are of the same schemes. -/
theorem firsts_perm (seen : List Scheme) {ds others : List Detection} (h : ds.Perm others) :
    ((firsts seen ds).map (·.scheme)).Perm ((firsts seen others).map (·.scheme)) := by
  refine (List.perm_ext_iff_of_nodup (nodup_schemes_firsts _ _) (nodup_schemes_firsts _ _)).mpr
    fun s => ?_
  rw [mem_schemes_firsts, mem_schemes_firsts, (h.map _).mem_iff]

theorem absorb_perm (a : Analysis) {s next : Signals} (h : s.IsReordered next)
    (husual : AreUsual s.detections) :
    (a.absorb s).conclude.IsReordered (a.absorb next).conclude := by
  have hnext : AreUsual next.detections := fun d hd => husual d (h.detections.mem_iff.mpr hd)
  have hschemes : (a.absorb s).schemes.Perm (a.absorb next).schemes := by
    rw [Analysis.schemes_absorb, Analysis.schemes_absorb]
    exact (firsts_perm a.schemes h.detections).append_left _
  have hsteamworks : (a.absorb s).steamworks = (a.absorb next).steamworks := by
    rw [Analysis.absorb_eq, Analysis.absorb_eq, h.steamworks]
  have hlauncher : (a.absorb s).launcher = (a.absorb next).launcher := by
    rw [Analysis.absorb_eq, Analysis.absorb_eq, h.launcher]
  have honline : (a.absorb s).online = (a.absorb next).online := by
    rw [Analysis.absorb_eq, Analysis.absorb_eq, h.online]
  refine ⟨?_, ?_, ?_, ?_, hsteamworks, hlauncher, honline, ?_, Analysis.primary_congr hschemes,
    Verdict.of_congr ⟨fun _ => hschemes.mem_iff, hsteamworks, hlauncher, honline⟩⟩
  all_goals simp only [Analysis.conclude, Analysis.absorb_eq]
  · rw [List.map_append, List.map_append, map_rated_firsts husual, map_rated_firsts hnext]
    exact ((firsts_perm a.schemes h.detections).map _).append_left _
  · exact h.notes.append_left _
  · rw [h.steamPaths]

/-- An analysis does not depend on the order of the executables, whatever it started with: the schemes
with their confidences, the flags, the notes and the verdict are the same. -/
theorem analyseFrom_perm {executables others : List Path} (h : executables.Perm others)
    (t : FileTree) (settings : Settings) (root : Path) (start : Noted Analysis) :
    (analyseFrom (fun _ => t) settings root executables start).value.IsReordered
      (analyseFrom (fun _ => t) settings root others start).value := by
  rw [value_analyseFrom, value_analyseFrom]
  exact absorb_perm start.value ((signalsOf_perm h).followedBy (signalsBelow t root))
    ((areUsual_signalsOf executables).append (areUsual_signalsBelow root))

section Swap

open Image (nameBytes numberBytes padded zeros)
open Text.Ascii (foldByte toByte)

/-- An image without sections that holds a text in its stub. -/
def stubbed (text : String) : ByteArray := ⟨(
  padded Image.peOffsetField ([0x4D, 0x5A] ++ nameBytes text) ++ numberBytes 4 64 ++
  [0x50, 0x45, 0, 0] ++ numberBytes 2 0x14C ++ zeros 20).toArray⟩

/-- A game with two executables of which each gives another scheme away, beside a Steam library. -/
def protectedGame : FileTree where
  files := [(["g", "a.exe"], stubbed "securom"), (["g", "b.exe"], stubbed "themida"),
    (["g", "steam_api.dll"], ⟨#[]⟩)]
  directories := [["g"]]

/-- An executable of the game, which the reader accepts. -/
def analysedOf {executables : List Path} {file text : String}
    (hlisted : Path.ofText file ∈ executables)
    (hread : protectedGame.read (Path.ofText file).text = .ok (stubbed text))
    (hparsed : (Image.parse (stubbed text) (Path.ofText file).text).outcome =
      .image { path := (Path.ofText file).text, fileSize := 90 }) :
    Analysed protectedGame executables :=
  ⟨.ofText file, stubbed text, _, hlisted, hread, hparsed⟩

/-- An analysis to which a scheme was added by hand. -/
def startedByHand : Noted Analysis := ⟨{ detected := [⟨.custom, "seen by hand", .low⟩] }, []⟩

theorem mem_schemes_analyseFrom {executables : List Path} {s : Scheme} (x : Analysed t executables)
    (hx : x.Shows s) (settings : Settings) (root : Path) (start : Noted Analysis) :
    s ∈ (analyseFrom (fun _ => t) settings root executables start).value.schemes := by
  rw [value_analyseFrom]
  change s ∈ (Analysis.absorb _ _).schemes
  rw [Analysis.mem_schemes_absorb, signalsUnder, Signals.followedBy, List.map_append, List.mem_append,
    mem_detections_signalsOf]
  exact .inr (.inl ⟨x, hx⟩)

/-- Two images of which the one holds the name of SecuROM and the other that of Themida. -/
theorem analyseFrom_swap :
    let a := Path.ofText "g/a.exe"
    let b := Path.ofText "g/b.exe"
    let look (executables : List Path) :=
      (analyseFrom (fun _ => protectedGame) {} (.ofText "g") executables startedByHand).value
    [a, b].Perm [b, a] ∧ (look [a, b]).IsReordered (look [b, a]) ∧
      (∃ x : Analysed protectedGame [a], x.Shows .secuRom) ∧
      (∃ x : Analysed protectedGame [b], x.Shows .themida) ∧
      .secuRom ∈ (look [a, b]).schemes ∧ .themida ∈ (look [a, b]).schemes := by
  intro a b look
  have hswap : [a, b].Perm [b, a] := .swap _ _ []
  have hheld : "securom".toList.map (foldByte ∘ toByte) <:+: (stubbed "securom").data.toList.map foldByte ∧
      "themida".toList.map (foldByte ∘ toByte) <:+: (stubbed "themida").data.toList.map foldByte := by
    decide +kernel
  have hfirst {executables : List Path} (h : a ∈ executables) :
      ∃ x : Analysed protectedGame executables, x.Shows .secuRom :=
    ⟨analysedOf h rfl (by decide +kernel), .inr ⟨"securom", by decide, hheld.1⟩⟩
  have hsecond {executables : List Path} (h : b ∈ executables) :
      ∃ x : Analysed protectedGame executables, x.Shows .themida :=
    ⟨analysedOf h rfl (by decide +kernel), .inr ⟨"themida", by decide, hheld.2⟩⟩
  obtain ⟨x, hx⟩ : ∃ x : Analysed protectedGame [a, b], x.Shows .secuRom := hfirst List.mem_cons_self
  obtain ⟨y, hy⟩ : ∃ y : Analysed protectedGame [a, b], y.Shows .themida :=
    hsecond (List.mem_cons_of_mem _ List.mem_cons_self)
  exact ⟨hswap, analyseFrom_perm hswap protectedGame {} (.ofText "g") startedByHand,
    hfirst List.mem_cons_self, hsecond List.mem_cons_self, mem_schemes_analyseFrom x hx _ _ _,
    mem_schemes_analyseFrom y hy _ _ _⟩

end Swap

end PeSignals.Protection
