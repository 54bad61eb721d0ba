import RuleScanner.Proofs.Pieces

/-!
# Reading piece by piece

A pattern is cut into pieces, and the pieces are put together. The two can be done at once: `Progress` is how far a pattern has been
read, `Progress.step?` reads one piece and puts it in its place, and `Progress.finish?` goes on to the end of the pattern. A step opens
a group, closes one or leaves the groups as they are (`Progress.step?_cases`). So as long as it closes no group that is not there,
a step does the same inside of other groups (`Progress.step?_within`).
-/

namespace RuleScanner.Pattern

/-! ## Reading piece by piece -/

/-- How far a pattern has been read: the context, the groups around the present one, the nearest first, and the present one. -/
structure Progress where
  context : Context := {}
  outer : List Group := []
  group : Group := {}

namespace Progress

/-- Nothing of a pattern has been read. -/
def start (database : Database) : Progress := { context := .start database }

/-- The progress with one more piece, after which the context is another one. -/
def place? (b : Progress) (piece : Piece) (context : Context) : Option Progress :=
  match piece with
  | .atom part => some ⟨context, b.outer, b.group.add (.part part)⟩
  | .modeChange => some ⟨context, b.outer, b.group.add .modeChange⟩
  | .groupStart number => some ⟨context, b.group :: b.outer, { number }⟩
  | .groupEnd =>
    match b.outer with
    | [] => none
    | o :: outer => some ⟨context, outer, o.add (.part b.group.close)⟩
  | .bar => some ⟨context, b.outer, b.group.bar⟩
  | .times least most => (b.group.times? least most).map fun g => ⟨context, b.outer, g⟩

/-- Reads the piece that starts with the character `c`. -/
def step? (b : Progress) (c : Char) (cs : List Char) : Option (Progress × List Char) :=
  (piece? b.context c cs).map paired >>= fun (y, rest) => (b.place? y.1 y.2).map (·, rest)

/-- Reads a pattern from here to its end. -/
def finish? (b : Progress) (cs : List Char) : Option Part := pieces? cs.length b.context cs >>= assemble? b.outer b.group

variable {b b' : Progress} {c : Char} {cs rest r : List Char}

theorem assemble?_cons (b : Progress) (piece : Piece) (context : Context) (pieces : List Piece) :
    assemble? b.outer b.group (piece :: pieces) =
      b.place? piece context >>= fun b' => assemble? b'.outer b'.group pieces := by
  cases piece with
  | groupEnd =>
    unfold place?
    cases h : b.outer with
    | nil => simp [assemble?]
    | cons o outer => simp [assemble?]
  | times least most =>
    unfold place?
    cases h : b.group.times? least most <;> simp [assemble?, h]
  | _ => rfl

theorem place?_context {piece : Piece} {context : Context} (h : b.place? piece context = some b') : b'.context = context := by
  unfold place? at h
  split at h
  · cases h
    rfl
  · cases h
    rfl
  · cases h
    rfl
  · split at h
    · cases h
    · cases h
      rfl
  · cases h
    rfl
  · obtain ⟨g, -, rfl⟩ := Option.map_eq_some_iff.1 h
    rfl

/-- What is read in one step does not depend on what follows, in the way of a piece. -/
theorem loose_step? (b : Progress) (c : Char) : Loose (fun b' r => Dangling b'.context.mode r) (b.step? c) := by
  refine (loose_piece? b.context c).filterMap (fun y => b.place? y.1 y.2) ?_
  intro y b' r h hd
  rw [place?_context h]
  exact hd

theorem piece?_suffix {x x' : Context} {piece : Piece} (h : piece? x c rest = some (piece, x', r)) : r <:+ rest :=
  (loose_piece? x c).suffix (congrArg (Option.map paired) h)

theorem pieces?_of_skip_nil {x : Context} (h : x.mode.skip cs = []) (n : Nat) : pieces? n x cs = some [] := by
  unfold pieces?
  simp [h]

theorem pieces?_of_skip_cons {x : Context} (h : x.mode.skip cs = c :: rest) (n : Nat) :
    pieces? (n + 1) x cs = piece? x c rest >>= fun (piece, x, rest) => (pieces? n x rest).map (piece :: ·) := by
  rw [pieces?.eq_def]
  simp only [h]
  cases piece? x c rest with
  | none => rfl
  | some y => cases hy : pieces? n y.2.1 y.2.2 <;> simp [hy]

/-- As many pieces as there are characters are enough. -/
theorem pieces?_of_length_le (n : Nat) (x : Context) (cs : List Char) (hn : cs.length ≤ n) :
    pieces? (n + 1) x cs = pieces? n x cs := by
  induction n generalizing x cs with
  | zero =>
    obtain rfl := List.length_eq_zero_iff.1 (Nat.le_zero.1 hn)
    have hnil : x.mode.skip [] = [] := List.suffix_nil.1 (x.mode.skip_suffix [])
    rw [pieces?_of_skip_nil hnil, pieces?_of_skip_nil hnil]
  | succ n ih =>
    rcases hskip : x.mode.skip cs with _ | ⟨c, rest⟩
    · rw [pieces?_of_skip_nil hskip, pieces?_of_skip_nil hskip]
    · have hle := (x.mode.skip_suffix cs).length_le
      rw [hskip, List.length_cons] at hle
      rw [pieces?_of_skip_cons hskip, pieces?_of_skip_cons hskip]
      cases hpiece : piece? x c rest with
      | none => rfl
      | some y =>
        obtain ⟨piece, x', r⟩ := y
        have hr := (piece?_suffix hpiece).length_le
        simp only [Option.bind_eq_bind, Option.bind_some, ih x' r (by omega)]

theorem finish?_of_skip_nil (b : Progress) (h : b.context.mode.skip cs = []) :
    b.finish? cs = if b.outer.isEmpty then some b.group.inside else none := by
  unfold finish?
  rw [pieces?_of_skip_nil h]
  rfl

theorem finish?_nil (b : Progress) : b.finish? [] = if b.outer.isEmpty then some b.group.inside else none :=
  finish?_of_skip_nil b (List.suffix_nil.1 (b.context.mode.skip_suffix []))

/-- To read a pattern to its end is to read a piece and then the rest. -/
theorem finish?_of_skip_cons (b : Progress) (h : b.context.mode.skip cs = c :: rest) :
    b.finish? cs = b.step? c rest >>= fun (b', r) => b'.finish? r := by
  have hle := (b.context.mode.skip_suffix cs).length_le
  rw [h, List.length_cons] at hle
  obtain ⟨n, hn⟩ := Nat.exists_eq_add_of_le' hle
  unfold finish? step?
  rw [hn, ← Nat.add_assoc, pieces?_of_skip_cons h]
  cases hpiece : piece? b.context c rest with
  | none => rfl
  | some y =>
    obtain ⟨piece, x, r⟩ := y
    have hr := (piece?_suffix hpiece).length_le
    have hpieces : pieces? (n + rest.length) x r = pieces? r.length x r :=
      eq_of_length_le (F := fun n cs => pieces? n x cs) (fun n cs hn => pieces?_of_length_le n x cs hn) (by omega)
    simp only [Option.bind_eq_bind, Option.bind_some, Option.map_some, paired, hpieces]
    cases hplace : b.place? piece x with
    | none =>
      cases pieces? r.length x r with
      | none => rfl
      | some pieces =>
        rw [Option.map_some, Option.bind_some, assemble?_cons b piece x, hplace]
        rfl
    | some b' =>
      have hcontext := place?_context hplace
      cases hread : pieces? r.length x r with
      | none => simp [hcontext, hread]
      | some pieces =>
        rw [Option.map_some, Option.bind_some, assemble?_cons b piece x, hplace]
        simp [hcontext, hread]

/-- Induction along the steps in which a pattern is read to its end. -/
theorem step_induction {motive : Progress → List Char → Prop}
    (ending : ∀ b cs, b.context.mode.skip cs = [] → motive b cs)
    (step : ∀ b cs c rest, b.context.mode.skip cs = c :: rest → (∀ b' r, b.step? c rest = some (b', r) → motive b' r) → motive b cs)
    (b : Progress) (cs : List Char) : motive b cs := by
  rcases hskip : b.context.mode.skip cs with _ | ⟨c, rest⟩
  · exact ending b cs hskip
  · refine step b cs c rest hskip fun b' r hstep => ?_
    have hlt : r.length < cs.length := by
      have hle := (b.context.mode.skip_suffix cs).length_le
      rw [hskip] at hle
      exact Nat.lt_of_lt_of_le (Nat.lt_succ_of_le ((loose_step? b c).suffix hstep).length_le) hle
    exact step_induction ending step b' r
termination_by cs.length

/-- All that counts of a pattern is what is left behind blanks and comments. -/
theorem finish?_congr {cs' : List Char} (b : Progress) (h : b.context.mode.skip cs = b.context.mode.skip cs') :
    b.finish? cs = b.finish? cs' := by
  rcases hskip : b.context.mode.skip cs' with _ | ⟨c, rest⟩
  · rw [finish?_of_skip_nil b hskip, finish?_of_skip_nil b (h.trans hskip)]
  · rw [finish?_of_skip_cons b hskip, finish?_of_skip_cons b (h.trans hskip)]

end Progress

/-! ## The groups around a piece -/

/-- The modes of the groups around what follows the piece, if it stands in a context. -/
def Piece.around (piece : Piece) (x : Context) : List Mode :=
  match piece with
  | .groupStart _ => x.mode :: x.outer
  | .groupEnd => x.outer.tail
  | _ => x.outer

section

variable {x x' : Context} {piece : Piece} {c : Char} {cs rest r : List Char}

theorem group?_around (h : group? x cs = some (piece, x', r)) : x'.outer = piece.around x ∧ piece ≠ .groupEnd := by
  unfold group? at h
  split at h
  · cases h
  · cases h
  · cases h
  · cases h
  · unfold groupName? at h
    grind [Context.enterNumbered, Context.enter, Piece.around]
  · unfold groupName? at h
    grind [Context.enterNumbered, Context.enter, Piece.around]
  · grind [Context.enterNumbered, Context.enter, Piece.around]
  · cases h
    exact ⟨rfl, by simp⟩

/-- A piece that starts a group has one group more behind it, and one that ends a group has one less. Only a closing parenthesis
ends a group. -/
theorem piece?_around (h : piece? x c rest = some (piece, x', r)) :
    x'.outer = piece.around x ∧ (piece = .groupEnd → c = ')' ∧ x.outer ≠ []) := by
  unfold piece? at h
  split at h
  · obtain ⟨houter, hne⟩ := group?_around h
    exact ⟨houter, fun heq => absurd heq hne⟩
  · split at h
    · next houter =>
      cases h
      exact ⟨by simp [Piece.around, houter], fun _ => ⟨rfl, by simp [houter]⟩⟩
    · cases h
  all_goals grind [Piece.around, Option.map_eq_some_iff]

end

/-- The context with more groups around. -/
def Context.within (x : Context) (modes : List Mode) : Context := { x with outer := x.outer ++ modes }

theorem groupName?_within (x : Context) (modes : List Mode) (cs : List Char) :
    groupName? (x.within modes) cs = (groupName? x cs).map fun (piece, x, rest) => (piece, x.within modes, rest) := by
  unfold groupName?
  have hnames : (x.within modes).names = x.names := rfl
  simp only [hnames]
  split
  · split
    · rfl
    · rfl
  · rfl

theorem group?_within (x : Context) (modes : List Mode) (cs : List Char) :
    group? (x.within modes) cs = (group? x cs).map fun (piece, x, rest) => (piece, x.within modes, rest) := by
  unfold group?
  have hmode : (x.within modes).mode = x.mode := rfl
  rw [hmode]
  split
  · rfl
  · rfl
  · rfl
  · rfl
  · exact groupName?_within x modes _
  · exact groupName?_within x modes _
  · split
    · rfl
    · rfl
    · rfl
  · rfl

/-- A piece is the same with more groups around, unless it ends one that is not there. -/
theorem piece?_within (x : Context) (modes : List Mode) {c : Char} (h : c = ')' → x.outer ≠ []) (rest : List Char) :
    piece? (x.within modes) c rest = (piece? x c rest).map fun (piece, x, rest) => (piece, x.within modes, rest) := by
  unfold piece?
  have hmode : (x.within modes).mode = x.mode := rfl
  rw [hmode]
  split
  · exact group?_within x modes rest
  · obtain ⟨mode, outer, houter⟩ := List.exists_cons_of_ne_nil (h rfl)
    simp [Context.within, houter]
  · rfl
  · cases bracketClass? x.mode rest <;> rfl
  · rfl
  · rfl
  · rfl
  · cases counts? x.mode rest <;> rfl
  · cases escape? x.mode rest <;> rfl
  · cases x.mode.dot? <;> rfl
  · rfl
  · rfl
  · rfl

namespace Progress

/-- The progress with more groups around. -/
def within (b : Progress) (modes : List Mode) (groups : List Group) : Progress :=
  ⟨b.context.within modes, b.outer ++ groups, b.group⟩

theorem within_nil (b : Progress) : b.within [] [] = b := by simp [within, Context.within]

theorem place?_within {b : Progress} {piece : Piece} (h : piece = .groupEnd → b.outer ≠ []) (context : Context) (modes : List Mode)
    (groups : List Group) :
    (b.within modes groups).place? piece (context.within modes) = (b.place? piece context).map (·.within modes groups) := by
  cases piece with
  | groupEnd =>
    obtain ⟨o, outer, houter⟩ := List.exists_cons_of_ne_nil (h rfl)
    simp [place?, within, houter]
  | times least most =>
    simp [place?, within, Function.comp_def]
  | _ => rfl

/-- As many groups are open as the context has modes of, and the outermost one is not numbered. -/
structure Sound (b : Progress) : Prop where
  depth : b.context.outer.length = b.outer.length
  plain : (b.outer.getLast?.getD b.group).number = none

variable {b b' : Progress} {c : Char} {cs rest r : List Char}

theorem Sound.outer_eq_nil_iff (hb : b.Sound) : b.context.outer = [] ↔ b.outer = [] := by
  rw [← List.length_eq_zero_iff, hb.depth, List.length_eq_zero_iff]

/-- What a step does to the groups: it opens one, a closing parenthesis closes one, or they stay as they are. -/
theorem step?_cases (h : b.step? c rest = some (b', r)) :
    (b'.outer = b.group :: b.outer ∧ b'.context.outer = b.context.mode :: b.context.outer) ∨
      (c = ')' ∧ ∃ o m, b.outer = o :: b'.outer ∧ b.context.outer = m :: b'.context.outer ∧ b'.group.number = o.number) ∨
      b'.outer = b.outer ∧ b'.context.outer = b.context.outer ∧ b'.group.number = b.group.number := by
  obtain ⟨_, hread, h⟩ := Option.bind_eq_some_iff.1 h
  obtain ⟨⟨piece, context, t⟩, hpiece, rfl⟩ := Option.map_eq_some_iff.1 hread
  obtain ⟨b', hplace, heq⟩ := Option.map_eq_some_iff.1 h
  cases heq
  dsimp only [paired] at hplace
  obtain ⟨houter, hend⟩ := piece?_around hpiece
  cases piece with
  | groupStart number =>
    cases hplace
    exact Or.inl ⟨rfl, houter⟩
  | groupEnd =>
    obtain ⟨hc, hne⟩ := hend rfl
    obtain ⟨m, modes, hmodes⟩ := List.exists_cons_of_ne_nil hne
    rcases hgroups : b.outer with _ | ⟨o, outer⟩
    · simp [place?, hgroups] at hplace
    · simp only [place?, hgroups, Option.some.injEq] at hplace
      subst hplace
      refine Or.inr (Or.inl ⟨hc, o, m, rfl, ?_, rfl⟩)
      rw [houter, Piece.around, hmodes, List.tail_cons]
  | times least most =>
    obtain ⟨g, htimes, rfl⟩ := Option.map_eq_some_iff.1 hplace
    refine Or.inr (Or.inr ⟨rfl, houter, ?_⟩)
    unfold Group.times? at htimes
    split at htimes
    · cases htimes
      rfl
    · cases htimes
  | atom part =>
    cases hplace
    exact Or.inr (Or.inr ⟨rfl, houter, rfl⟩)
  | bar =>
    cases hplace
    exact Or.inr (Or.inr ⟨rfl, houter, rfl⟩)
  | modeChange =>
    cases hplace
    exact Or.inr (Or.inr ⟨rfl, houter, rfl⟩)

/-- A parenthesis that closes nothing is no piece. -/
theorem step?_close (hb : b.Sound) (houter : b.outer = []) (rest : List Char) : b.step? ')' rest = none := by
  have hmodes := hb.outer_eq_nil_iff.2 houter
  simp [step?, piece?, hmodes]

/-- No step loses a group, or gives a number to the outermost one. -/
theorem Sound.step (hb : b.Sound) (h : b.step? c rest = some (b', r)) : b'.Sound := by
  obtain ⟨hdepth, hplain⟩ := hb
  rcases step?_cases h with ⟨hgroups, hmodes⟩ | ⟨-, o, m, hgroups, hmodes, hnumber⟩ | ⟨hgroups, hmodes, hnumber⟩
  · refine ⟨by simp [hgroups, hmodes, hdepth], ?_⟩
    simpa [hgroups, List.getLast?_cons] using hplain
  · refine ⟨by simpa [hgroups, hmodes] using hdepth, ?_⟩
    rw [hgroups, List.getLast?_cons, Option.getD_some] at hplain
    cases hlast : b'.outer.getLast? with
    | none => simpa [hlast, hnumber] using hplain
    | some g => simpa [hlast] using hplain
  · refine ⟨by rw [hgroups, hmodes, hdepth], ?_⟩
    cases hlast : b.outer.getLast? with
    | none => simpa [hgroups, hlast, hnumber] using hplain
    | some g => simpa [hgroups, hlast] using hplain

/-- Where no parenthesis closes, a group that is open stays open. -/
theorem outer_eq_nil_of_notMem {part : Part} (b : Progress) (hcs : ')' ∉ cs) (h : b.finish? cs = some part) : b.outer = [] := by
  induction b, cs using step_induction with
  | ending b cs hskip =>
    rw [finish?_of_skip_nil b hskip] at h
    split at h
    · next hempty => exact List.isEmpty_iff.1 hempty
    · cases h
  | step b cs c rest hskip ih =>
    rw [finish?_of_skip_cons b hskip] at h
    obtain ⟨⟨b', r⟩, hstep, h⟩ := Option.bind_eq_some_iff.1 h
    have hrest : ')' ∉ c :: rest := fun hmem => hcs ((hskip ▸ b.context.mode.skip_suffix cs).mem hmem)
    have hr := (loose_step? b c).suffix hstep
    have houter := ih b' r hstep (fun hmem => hrest (List.mem_cons_of_mem c (hr.mem hmem))) h
    rcases step?_cases hstep with ⟨hgroups, -⟩ | ⟨rfl, -⟩ | ⟨hgroups, -⟩
    · cases houter.symm.trans hgroups
    · exact absurd List.mem_cons_self hrest
    · exact hgroups.symm.trans houter

/-- A step is the same with more groups around, unless it ends one that is not there. -/
theorem step?_within (hb : b.Sound) (h : c = ')' → b.outer ≠ []) (modes : List Mode) (groups : List Group) (rest : List Char) :
    (b.within modes groups).step? c rest = (b.step? c rest).map fun (b', r) => (b'.within modes groups, r) := by
  unfold step?
  have hcontext : (b.within modes groups).context = b.context.within modes := rfl
  rw [hcontext, piece?_within b.context modes (fun hc => mt hb.outer_eq_nil_iff.1 (h hc))]
  cases hpiece : piece? b.context c rest with
  | none => rfl
  | some y =>
    obtain ⟨piece, x, r⟩ := y
    have hplace := place?_within (fun heq => h ((piece?_around hpiece).2 heq).1) x modes groups
    simp [paired, hplace, Function.comp_def]

end Progress

end RuleScanner.Pattern
