import Mathlib.Data.List.Forall2
import SpellServer.Spell.Runs

/-!
# Tokens and the runs they come from

Where tokenization returns, its tokens are the maximal runs of the text in their
order, each in its place and with the punctuation around it cut off.
-/

namespace SpellServer

open Library

/-! ## Runs one after the other -/

/-- A run that starts later starts behind the end of the earlier one. -/
theorem MaximalRun.before {text front raw back laterFront laterRaw laterBack : List Char}
    (run : MaximalRun text front raw back)
    (later : MaximalRun text laterFront laterRaw laterBack)
    (order : front.length < laterFront.length) :
    byteLength front + byteLength raw < byteLength laterFront := by
  -- The front of the later run does not end inside the earlier one.
  have outside : ∀ middle rest : List Char, raw = middle ++ rest → middle ≠ [] →
      laterFront ≠ front ++ middle := by
    intro middle rest parts given same
    have solid := run.solid _ (parts ▸ List.mem_append_left rest (List.getLast_mem given))
    have white := later.left (middle.getLast given) (by
      rw [same, List.getLast?_append_of_ne_nil _ given, List.getLast?_eq_some_getLast given]
      rfl)
    rw [solid] at white
    cases white
  have joined : (front ++ raw) ++ back = laterFront ++ (laterRaw ++ laterBack) := by
    rw [List.append_assoc, ← run.parts, later.parts]
  rcases List.append_eq_append_iff.mp joined with ⟨middle, fronts, _⟩ | ⟨middle, fronts, _⟩
  · have given : middle ≠ [] := by
      intro empty
      rw [empty, List.append_nil] at fronts
      exact outside raw [] (List.append_nil raw).symm run.nonempty fronts
    have positive := Nat.pos_of_ne_zero (mt byteLength_eq_zero_iff.mp given)
    rw [fronts, byteLength_append, byteLength_append]
    omega
  · rcases List.append_eq_append_iff.mp fronts with ⟨inside, longer, raws⟩ | ⟨inside, shorter, _⟩
    · have given : inside ≠ [] := by
        intro empty
        rw [longer, empty, List.append_nil] at order
        exact lt_irrefl _ order
      exact absurd longer (outside inside middle raws given)
    · rw [shorter, List.length_append] at order
      omega

/-! ## What is kept of a run -/

/-- A run without the punctuation on either side. -/
def keptOf (raw : List Char) : List Char := (raw.dropWhile isPunctuation).rdropWhile isPunctuation

theorem keptOf_ne_nil {raw : List Char} (mixed : ¬(raw.all isPunctuation = true)) :
    keptOf raw ≠ [] := by
  intro empty
  apply mixed
  have rest : (raw.dropWhile isPunctuation).all isPunctuation = true :=
    List.all_eq_true.mpr (List.rdropWhile_eq_nil_iff.mp empty)
  rw [← raw.takeWhile_append_dropWhile (p := isPunctuation), List.all_append, rest,
    List.all_takeWhile]
  rfl

theorem keptOf_parts (raw : List Char) :
    ∃ before after, raw = before ++ (keptOf raw ++ after) ∧ before.all isPunctuation = true ∧
      after.all isPunctuation = true := by
  refine ⟨raw.takeWhile isPunctuation, (raw.dropWhile isPunctuation).rtakeWhile isPunctuation,
    ?_, List.all_takeWhile, ?_⟩
  · rw [keptOf, List.rdropWhile_append_rtakeWhile, List.takeWhile_append_dropWhile]
  · rw [List.all_eq_true]
    intro c member
    exact List.mem_rtakeWhile_imp member

theorem keptOf_last {raw : List Char} {c : Char} (last : c ∈ (keptOf raw).getLast?) :
    isPunctuation c = false := by
  have given : keptOf raw ≠ [] := by
    intro empty
    rw [empty] at last
    cases last
  have kept := List.rdropWhile_last_not isPunctuation (raw.dropWhile isPunctuation) given
  rw [List.getLast?_eq_some_getLast given] at last
  cases last
  exact Bool.eq_false_iff.mpr kept

theorem keptOf_first {raw : List Char} {c : Char} (first : c ∈ (keptOf raw).head?) :
    isPunctuation c = false := by
  obtain ⟨after, rest⟩ := List.rdropWhile_prefix isPunctuation (raw.dropWhile isPunctuation)
  cases kept : keptOf raw with
  | nil =>
      rw [kept] at first
      cases first
  | cons d others =>
      rw [kept] at first
      cases first
      have dropped : raw.dropWhile isPunctuation = c :: (others ++ after) := by
        rw [← rest, ← keptOf, kept]
        rfl
      have head := List.head_dropWhile_not isPunctuation (l := raw) (by rw [dropped]; simp)
      simpa [dropped] using head

theorem mem_of_mem_keptOf {raw : List Char} {c : Char} (member : c ∈ keptOf raw) : c ∈ raw := by
  obtain ⟨before, after, parts, _⟩ := keptOf_parts raw
  rw [parts]
  exact List.mem_append_right _ (List.mem_append_left _ member)

/-- What has been cut off once is not cut again. -/
theorem keptOf_keptOf (raw : List Char) : keptOf (keptOf raw) = keptOf raw := by
  have start : (keptOf raw).dropWhile isPunctuation = keptOf raw := by
    cases kept : keptOf raw with
    | nil => rfl
    | cons c rest =>
        have head : c ∈ (keptOf raw).head? := by
          rw [kept]
          rfl
        have first := keptOf_first head
        exact List.dropWhile_cons_of_neg (by simp [first])
  have stop : (keptOf raw).rdropWhile isPunctuation = keptOf raw := by
    rw [List.rdropWhile_eq_self_iff]
    intro given
    have last := keptOf_last (List.getLast?_eq_some_getLast given)
    simp [last]
  calc
    keptOf (keptOf raw) =
        ((keptOf raw).dropWhile isPunctuation).rdropWhile isPunctuation := rfl
    _ = keptOf raw := by rw [start, stop]

/-! ## Tokens -/

def tokenOf (mat : Match) : Token :=
  { token := .ofList (keptOf mat.raw)
    startByte := mat.start
    endByte := mat.stop
    startChar := mat.startChar }

/-- The loop pushes a token for each match, or panics. -/
theorem tokensOf_eq_some {found : List Match} {tokens : List Token}
    (runs : ∀ mat ∈ found, mat.raw ≠ []) (returned : tokensOf found = some tokens) :
    (∀ mat ∈ found, ¬(mat.raw.all isPunctuation = true)) ∧ tokens = found.map tokenOf := by
  induction found generalizing tokens with
  | nil =>
      cases returned
      exact ⟨fun _ absent => (List.not_mem_nil absent).elim, rfl⟩
  | cons mat found induction =>
      simp only [tokensOf, Option.bind_eq_bind, Option.bind_eq_some_iff] at returned
      obtain ⟨stripped, strips, rest, restReturned, ends⟩ := returned
      obtain ⟨mixedRest, restEq⟩ := induction
        (fun other member => runs other (List.mem_cons_of_mem mat member)) restReturned
      rw [stripSurroundingPunctuation_eq] at strips
      have mixed : ¬(mat.raw.all isPunctuation = true) := by
        intro all
        rw [if_pos ⟨runs mat List.mem_cons_self, all⟩] at strips
        cases strips
      rw [if_neg (fun both => mixed both.2)] at strips
      have kept : stripped = keptOf mat.raw := (Option.some_inj.mp strips).symm
      have given : ¬(stripped.isEmpty = true) := by
        rw [List.isEmpty_iff, kept]
        exact keptOf_ne_nil mixed
      rw [if_neg given] at ends
      cases ends
      refine ⟨?_, by rw [restEq, kept]; rfl⟩
      intro other member
      rcases List.mem_cons.mp member with rfl | later
      · exact mixed
      · exact mixedRest other later

def Match.whole (word : List Char) : Match :=
  { raw := word, start := 0, stop := byteLength word, startChar := 0 }

theorem Match.whole_placed (word : List Char) : (Match.whole word).Placed 0 0 [] :=
  ⟨rfl, by simp [Match.whole], rfl⟩

/-- A text without whitespace is one match. -/
theorem findIter_word {word : List Char} (given : word ≠ [])
    (solid : ∀ c ∈ word, isWhiteSpace c = false) : findIter 0 0 none word = [.whole word] := by
  have run : MaximalRun word [] word [] := by
    have noBack : ∀ c ∈ ([] : List Char).head?, isWhiteSpace c = true := by simp
    have alone := MaximalRun.of_solid given solid noBack
    rwa [List.append_nil] at alone
  have ordered := (@findIter_startChar 0 0 none word fun _ absent => by cases absent).1
  have only : ∀ mat ∈ findIter 0 0 none word, mat = .whole word := by
    intro mat member
    obtain ⟨front, back, other, place⟩ := mem_matches_iff.mp member
    obtain ⟨rfl, _, same⟩ := other.eq_of_solid solid
    exact place.unique (Match.whole_placed word) same
  have found : Match.whole word ∈ findIter 0 0 none word :=
    mem_matches_iff.mpr ⟨[], [], run, Match.whole_placed word⟩
  cases scanned : findIter 0 0 none word with
  | nil =>
      rw [scanned] at found
      cases found
  | cons mat rest =>
      rw [scanned] at only ordered
      have first := only mat List.mem_cons_self
      have nothing : rest = [] := by
        apply List.eq_nil_iff_forall_not_mem.mpr
        intro other member
        have after := List.rel_of_pairwise_cons ordered member
        rw [first, only other (List.mem_cons_of_mem mat member)] at after
        exact lt_irrefl _ after
      rw [first, nothing]

/-- A word that is stripped already is its own token. -/
theorem tokenize_kept {raw : List Char} (solid : ∀ c ∈ raw, isWhiteSpace c = false)
    (mixed : ¬(raw.all isPunctuation = true)) :
    tokenize (.ofList (keptOf raw)) =
      some
        [{ token := .ofList (keptOf raw)
           startByte := 0
           endByte := byteLength (keptOf raw)
           startChar := 0 }] := by
  have given := keptOf_ne_nil mixed
  have word := findIter_word given fun c member => solid c (mem_of_mem_keptOf member)
  obtain ⟨c, rest, kept⟩ := List.exists_cons_of_ne_nil given
  have head : c ∈ (keptOf raw).head? := by
    rw [kept]
    rfl
  have first := keptOf_first head
  have strips := stripSurroundingPunctuation_eq (keptOf raw)
  rw [if_neg (by rw [kept]; simp [first]), ← keptOf, keptOf_keptOf] at strips
  unfold tokenize
  rw [String.toList_ofList, word]
  simp [tokensOf, Match.whole, strips, given]

/-! ## The tokens of a text -/

/-- A run of a text and what stands on either side of it. -/
structure TextRun where
  front : List Char
  raw : List Char
  back : List Char

/-- How a token stands for a run. -/
structure TokenOfRun (text : List Char) (run : TextRun) (token : Token) : Prop where
  startByte : token.startByte = byteLength run.front
  startChar : token.startChar = run.front.length
  sliced : slice text token.startByte token.endByte = some run.raw
  nonempty : token.token.toList ≠ []
  part : ∃ before after, run.raw = before ++ (token.token.toList ++ after) ∧
    before.all isPunctuation = true ∧ after.all isPunctuation = true
  first : ∀ c ∈ token.token.toList.head?, isPunctuation c = false
  last : ∀ c ∈ token.token.toList.getLast?, isPunctuation c = false
  again : tokenize token.token =
    some
      [{ token := token.token
         startByte := 0
         endByte := byteLength token.token.toList
         startChar := 0 }]

theorem tokenOf_match {text : List Char} {run : TextRun} {mat : Match}
    (maximal : MaximalRun text run.front mat.raw run.back) (placed : mat.Placed 0 0 run.front)
    (same : run.raw = mat.raw) (mixed : ¬(mat.raw.all isPunctuation = true)) :
    TokenOfRun text run (tokenOf mat) where
  startByte := placed.start.trans (Nat.zero_add _)
  startChar := placed.startChar.trans (Nat.zero_add _)
  sliced := by
    have bytes := slice_eq maximal.parts
    rw [← Nat.zero_add (byteLength run.front), ← placed.start] at bytes
    have stop : mat.start + byteLength mat.raw = mat.stop := by
      rw [placed.start, placed.stop]
    rw [stop] at bytes
    rw [same]
    exact bytes
  nonempty := by
    rw [tokenOf, String.toList_ofList]
    exact keptOf_ne_nil mixed
  part := by
    rw [tokenOf, String.toList_ofList, same]
    exact keptOf_parts mat.raw
  first := by
    rw [tokenOf, String.toList_ofList]
    intro c head
    exact keptOf_first head
  last := by
    rw [tokenOf, String.toList_ofList]
    intro c last
    exact keptOf_last last
  again := by
    rw [tokenOf, String.toList_ofList]
    exact tokenize_kept maximal.solid mixed

/-- The run that a match is of. -/
def runOf (text : List Char) (mat : Match) : TextRun :=
  { front := text.take mat.startChar
    raw := mat.raw
    back := text.drop (mat.startChar + mat.raw.length) }

theorem runOf_eq {text front back : List Char} {mat : Match}
    (maximal : MaximalRun text front mat.raw back) (placed : mat.Placed 0 0 front) :
    runOf text mat = { front, raw := mat.raw, back } := by
  have start : mat.startChar = front.length := placed.startChar.trans (Nat.zero_add _)
  unfold runOf
  rw [start, maximal.parts, List.take_left, ← List.append_assoc, ← List.length_append,
    List.drop_left]

/-- The tokens are the runs that are more than punctuation, one for one and in order. -/
theorem tokenization_faithful {text : String} {tokens : List Token}
    (returned : tokenize text = some tokens) :
    (∃ runs : List TextRun,
      (∀ run, run ∈ runs ↔ MaximalRun text.toList run.front run.raw run.back ∧
        ∃ c ∈ run.raw, isPunctuation c = false) ∧
      runs.Pairwise (fun earlier later => earlier.front.length < later.front.length) ∧
      List.Forall₂ (TokenOfRun text.toList) runs tokens) ∧
    (∀ token ∈ tokens, token.startByte < token.endByte) ∧
    tokens.Pairwise fun earlier later => earlier.endByte < later.startByte := by
  obtain ⟨mixed, rfl⟩ := tokensOf_eq_some (findIter_raw fun _ absent => by cases absent) returned
  have ordered := (@findIter_startChar 0 0 none text.toList fun _ absent => by cases absent).1
  refine ⟨⟨(findIter 0 0 none text.toList).map (runOf text.toList), ?members, ?order, ?each⟩,
    ?given, ?disjoint⟩
  case members =>
    intro run
    rw [List.mem_map]
    constructor
    · intro found
      obtain ⟨mat, member, rfl⟩ := found
      obtain ⟨front, back, maximal, placed⟩ := mem_matches_iff.mp member
      rw [runOf_eq maximal placed]
      have some_kept := mixed mat member
      rw [List.all_eq_true] at some_kept
      push Not at some_kept
      obtain ⟨c, inside, kept⟩ := some_kept
      exact ⟨maximal, c, inside, Bool.eq_false_iff.mpr kept⟩
    · intro present
      obtain ⟨maximal, _⟩ := present
      refine ⟨{ raw := run.raw
                start := 0 + byteLength run.front
                stop := 0 + byteLength run.front + byteLength run.raw
                startChar := 0 + run.front.length }, ?_, ?_⟩
      · exact mem_matches_iff.mpr ⟨run.front, run.back, maximal, rfl, rfl, rfl⟩
      · exact runOf_eq maximal ⟨rfl, rfl, rfl⟩
  case order =>
    rw [List.pairwise_map]
    apply ordered.imp_of_mem
    intro one two oneMember twoMember less
    obtain ⟨oneFront, _, oneMaximal, onePlaced⟩ := mem_matches_iff.mp oneMember
    obtain ⟨twoFront, _, twoMaximal, twoPlaced⟩ := mem_matches_iff.mp twoMember
    rw [runOf_eq oneMaximal onePlaced, runOf_eq twoMaximal twoPlaced]
    rw [onePlaced.startChar, twoPlaced.startChar] at less
    exact Nat.lt_of_add_lt_add_left less
  case each =>
    rw [List.forall₂_map_left_iff, List.forall₂_map_right_iff]
    apply List.forall₂_same.mpr
    intro mat member
    obtain ⟨front, back, maximal, placed⟩ := mem_matches_iff.mp member
    rw [runOf_eq maximal placed]
    exact tokenOf_match maximal placed rfl (mixed mat member)
  case given =>
    intro token member
    obtain ⟨mat, found, rfl⟩ := List.mem_map.mp member
    obtain ⟨front, back, maximal, placed⟩ := mem_matches_iff.mp found
    have positive := Nat.pos_of_ne_zero (mt byteLength_eq_zero_iff.mp maximal.nonempty)
    change mat.start < mat.stop
    rw [placed.start, placed.stop]
    omega
  case disjoint =>
    rw [List.pairwise_map]
    apply ordered.imp_of_mem
    intro one two oneMember twoMember less
    obtain ⟨oneFront, _, oneMaximal, onePlaced⟩ := mem_matches_iff.mp oneMember
    obtain ⟨twoFront, _, twoMaximal, twoPlaced⟩ := mem_matches_iff.mp twoMember
    rw [onePlaced.startChar, twoPlaced.startChar] at less
    have behind := oneMaximal.before twoMaximal (Nat.lt_of_add_lt_add_left less)
    change one.stop < two.start
    rw [onePlaced.stop, twoPlaced.start]
    omega

theorem tokenization_faithful_unicode :
    tokenize "rien" = some [⟨"rien", 0, 4, 0⟩] := by
  have returned : tokenize "café, (rien)" = some [⟨"café", 0, 6, 0⟩, ⟨"rien", 7, 13, 6⟩] := by
    decide +kernel
  obtain ⟨⟨runs, _, _, each⟩, _⟩ := tokenization_faithful returned
  obtain ⟨_, _, _, more, _⟩ := List.forall₂_cons_right_iff.mp each
  obtain ⟨_, _, second, _⟩ := List.forall₂_cons_right_iff.mp more
  exact second.again

end SpellServer
