import AndroidArt.Lib.Align
import Mathlib.Data.List.Range

/-!
# The card table and its scan

Model of `CardTable` (`runtime/gc/accounting/card_table.h`, `card_table-inl.h`): `CardFromAddr`,
`AddrFromCard`, `MarkCard` and `Scan`.

Addresses and card pointers are `Nat`; `cards` gives the byte at every card address.
`CardTable::Create` moves `biased_begin_` until its low byte is `kCardDirty`, and the structure
keeps that as a field.  `sizeof(word)` and `sizeof(uintptr_t)` are one parameter `wordSize`, and
a word is read from the cards little-endian, as the scan's byte decoding assumes.  What `Scan`
does is the sequence of its `bitmap->VisitMarkedRange(start, start + kCardSize, visitor)` calls,
recorded by `start`, and the count `cards_scanned` it returns; the bitmap and the visitor are not
modelled, nor the `DCHECK`s on the card pointers.

Principal results:
* `scan_of_roundUp_le`: when the head loop reaches a word boundary inside the range, `Scan` visits
  exactly the cards of the range whose value is at least `minimum_age`, once each, in order, and
  returns their number (`scanSpec`).
* `scan_of_lt_roundUp`: when the range starts off a word boundary and ends before the next one,
  the head loop visits the whole range and the tail loop, restarted from the word boundary below
  the end, visits the range again together with the cards before it in that word.
-/

set_option autoImplicit false

namespace Art

/-- `kCardShift`. -/
def kCardShift : Nat := 7

/-- `kCardSize`. -/
def kCardSize : Nat := 1 <<< kCardShift

/-- `kCardClean`. -/
def kCardClean : UInt8 := 0x0

/-- `kCardDirty`. -/
def kCardDirty : UInt8 := 0x70

theorem kCardSize_eq : kCardSize = 2 ^ 7 := rfl

/-- The fields of `CardTable` that `Scan` reads, with the card bytes of its mapping. -/
structure CardTable where
  biasedBegin : Nat
  /-- `Create` checks that the low byte of `biased_begin_` is `kCardDirty`. -/
  biased : biasedBegin % 256 = kCardDirty.toNat
  cards : Nat → UInt8

/-- What `Scan` has done so far: `cards_scanned`, and the start of each `VisitMarkedRange` call. -/
structure ScanState where
  cardsScanned : Nat
  visits : List Nat
  deriving DecidableEq, Repr

namespace ScanState

/-- One `bitmap->VisitMarkedRange(start, start + kCardSize, visitor)` and its `++cards_scanned`. -/
def visit (s : ScanState) (start : Nat) : ScanState :=
  { cardsScanned := s.cardsScanned + 1, visits := s.visits ++ [start] }

/-- The visits of a list of starts, one after another. -/
def visitList (s : ScanState) (l : List Nat) : ScanState :=
  { cardsScanned := s.cardsScanned + l.length, visits := s.visits ++ l }

theorem visit_eq (s : ScanState) (start : Nat) : s.visit start = s.visitList [start] := rfl

@[simp] theorem visitList_nil (s : ScanState) : s.visitList [] = s := by
  simp [visitList]

@[simp] theorem visitList_visitList (s : ScanState) (l₁ l₂ : List Nat) :
    (s.visitList l₁).visitList l₂ = s.visitList (l₁ ++ l₂) := by
  simp [visitList, Nat.add_assoc]

end ScanState

/-- `*word_cur` over card bytes: the `n` bytes from `p` as one little-endian word. -/
def loadWord (mem : Nat → UInt8) : (n p : Nat) → Nat
  | 0, _ => 0
  | n + 1, p => (mem p).toNat + 256 * loadWord mem n (p + 1)

namespace CardTable

variable (t : CardTable)

/-- `CardFromAddr`. -/
def cardFromAddr (addr : Nat) : Nat := t.biasedBegin + (addr >>> kCardShift)

/-- `AddrFromCard`. -/
def addrFromCard (cardAddr : Nat) : Nat := (cardAddr - t.biasedBegin) <<< kCardShift

/-- `MarkCard`. -/
def markCard (addr : Nat) : CardTable :=
  { t with cards := Function.update t.cards (t.cardFromAddr addr) kCardDirty }

/-- A table as `Create` leaves it: the anonymous mapping reads as `kCardClean` everywhere. -/
def clean (biasedBegin : Nat) (h : biasedBegin % 256 = kCardDirty.toNat) : CardTable :=
  ⟨biasedBegin, h, fun _ => kCardClean⟩

variable (wordSize : Nat) (minimumAge : UInt8)

/-- The body of the head and tail loops at `card_cur`. -/
def scanCard (s : ScanState) (cardCur : Nat) : ScanState :=
  if t.cards cardCur ≥ minimumAge then s.visit (t.addrFromCard cardCur) else s

/-- The head loop `while (!IsAligned<sizeof(word)>(card_cur) && card_cur < card_end)`, for at most
`fuel` cards; it returns the card it stops at. -/
def scanHead (cardEnd : Nat) : (fuel cardCur : Nat) → ScanState → Nat × ScanState
  | 0, cardCur, s => (cardCur, s)
  | fuel + 1, cardCur, s =>
    if Align.isAligned wordSize cardCur = false ∧ cardCur < cardEnd then
      scanHead cardEnd fuel (cardCur + 1) (t.scanCard minimumAge s cardCur)
    else (cardCur, s)

/-- The loop over the `sizeof(uintptr_t)` cards of a nonzero word: the low byte of `start_word`
is the current card, and `start_word >>= 8`, `start += kCardSize` move to the next one. -/
def scanWordBytes : (i startWord start : Nat) → ScanState → ScanState
  | 0, _, _, s => s
  | i + 1, startWord, start, s =>
    let s := if startWord.toUInt8 ≥ minimumAge then s.visit start else s
    scanWordBytes i (startWord >>> 8) (start + kCardSize) s

/-- The word loop `for (word_cur = card_cur; word_cur < word_end; ++word_cur)`.  Its inner
`while (*word_cur == 0)`, which leaves the loop at `word_end`, is the zero test here followed by
the loop test of the next round. -/
def scanWords (wordEnd : Nat) : (fuel wordCur : Nat) → ScanState → ScanState
  | 0, _, s => s
  | fuel + 1, wordCur, s =>
    if wordCur < wordEnd then
      let startWord := loadWord t.cards wordSize wordCur
      if startWord = 0 then scanWords wordEnd fuel (wordCur + wordSize) s
      else
        scanWords wordEnd fuel (wordCur + wordSize)
          (scanWordBytes minimumAge wordSize startWord (t.addrFromCard wordCur) s)
    else s

/-- The tail loop `while (card_cur < card_end)`, for at most `fuel` cards. -/
def scanTail (cardEnd : Nat) : (fuel cardCur : Nat) → ScanState → ScanState
  | 0, _, s => s
  | fuel + 1, cardCur, s =>
    if cardCur < cardEnd then scanTail cardEnd fuel (cardCur + 1) (t.scanCard minimumAge s cardCur)
    else s

/-- `CardTable::Scan(bitmap, scan_begin, scan_end, visitor, minimum_age)`.  The head and tail
loops take one round of fuel per card and the word loop one per byte of its range, which is
enough: every round advances the cursor. -/
def scan (scanBegin scanEnd : Nat) : ScanState :=
  let cardCur := t.cardFromAddr scanBegin
  let cardEnd := t.cardFromAddr (Align.roundUp scanEnd kCardSize)
  let head := t.scanHead wordSize minimumAge cardEnd (cardEnd - cardCur) cardCur ⟨0, []⟩
  let alignedEnd := cardEnd - (cardEnd &&& (wordSize - 1))
  let wordEnd := alignedEnd
  let s := t.scanWords wordSize minimumAge wordEnd (wordEnd - head.1) head.1 head.2
  t.scanTail minimumAge cardEnd (cardEnd - wordEnd) wordEnd s

/-! ## What a scan should visit -/

/-- The cards of `[card, card + n)` whose value is at least `minimumAge`, by the start of their
heap range, in card order. -/
def qualifying (card n : Nat) : List Nat :=
  ((List.range' card n).filter fun c => decide (minimumAge ≤ t.cards c)).map t.addrFromCard

/-- The visits the scan of `[scan_begin, scan_end)` should make: one per card from
`CardFromAddr(scan_begin)` up to `CardFromAddr(AlignUp(scan_end, kCardSize))` whose value is at
least `minimum_age`. -/
def scanSpec (scanBegin scanEnd : Nat) : List Nat :=
  t.qualifying minimumAge (t.cardFromAddr scanBegin)
    (t.cardFromAddr (Align.roundUp scanEnd kCardSize) - t.cardFromAddr scanBegin)

@[simp] theorem qualifying_zero (card : Nat) : t.qualifying minimumAge card 0 = [] := rfl

theorem qualifying_add (card a b : Nat) :
    t.qualifying minimumAge card (a + b) =
      t.qualifying minimumAge card a ++ t.qualifying minimumAge (card + a) b := by
  have h := (@List.range'_append card a b 1).symm
  rw [Nat.one_mul] at h
  simp only [qualifying, h, List.filter_append, List.map_append]

theorem qualifying_one (card : Nat) :
    t.qualifying minimumAge card 1 = if minimumAge ≤ t.cards card then [t.addrFromCard card] else [] := by
  by_cases h : minimumAge ≤ t.cards card <;> simp [qualifying, h]

theorem qualifying_succ (card n : Nat) :
    t.qualifying minimumAge card (n + 1) =
      t.qualifying minimumAge card 1 ++ t.qualifying minimumAge (card + 1) n := by
  rw [Nat.add_comm n 1, qualifying_add]

theorem scanCard_eq (s : ScanState) (card : Nat) :
    t.scanCard minimumAge s card = s.visitList (t.qualifying minimumAge card 1) := by
  rw [qualifying_one, scanCard]
  split_ifs <;> simp [ScanState.visit_eq]

/-- Cards that are all clean qualify for no scan with a positive minimum age. -/
theorem qualifying_eq_nil {card n : Nat} (hm : 0 < minimumAge)
    (hz : ∀ i, i < n → t.cards (card + i) = 0) : t.qualifying minimumAge card n = [] := by
  simp only [qualifying, List.map_eq_nil_iff, List.filter_eq_nil_iff, List.mem_range'_1,
    decide_eq_true_eq]
  intro c hc hle
  have hc0 : t.cards c = 0 := by simpa [Nat.add_sub_cancel' hc.1] using hz (c - card) (by omega)
  rw [hc0] at hle
  exact absurd (Nat.lt_of_lt_of_le hm hle) (Nat.lt_irrefl 0)

/-! ## Addresses -/

theorem le_cardFromAddr (addr : Nat) : t.biasedBegin ≤ t.cardFromAddr addr :=
  Nat.le_add_right _ _

theorem cardFromAddr_mono {a b : Nat} (h : a ≤ b) : t.cardFromAddr a ≤ t.cardFromAddr b := by
  simp only [cardFromAddr, Nat.shiftRight_eq_div_pow]
  exact Nat.add_le_add_left (Nat.div_le_div_right h) _

/-- The next card's range starts `kCardSize` bytes later. -/
theorem addrFromCard_succ {card : Nat} (h : t.biasedBegin ≤ card) :
    t.addrFromCard card + kCardSize = t.addrFromCard (card + 1) := by
  simp only [addrFromCard, Nat.shiftLeft_eq, kCardSize, kCardShift]
  rw [Nat.sub_add_comm h, Nat.add_mul, Nat.one_mul]

end CardTable

/-! ## Words of cards -/

theorem loadWord_succ_toUInt8 (mem : Nat → UInt8) (n p : Nat) :
    (loadWord mem (n + 1) p).toUInt8 = mem p := by
  have h := (mem p).toNat_lt
  rw [← UInt8.toNat_inj, Nat.toUInt8_eq, UInt8.toNat_ofNat', loadWord]
  omega

theorem loadWord_succ_shiftRight (mem : Nat → UInt8) (n p : Nat) :
    loadWord mem (n + 1) p >>> 8 = loadWord mem n (p + 1) := by
  have h := (mem p).toNat_lt
  rw [Nat.shiftRight_eq_div_pow, loadWord]
  omega

/-- A zero word holds only clean cards. -/
theorem loadWord_eq_zero {mem : Nat → UInt8} {n p : Nat} (h : loadWord mem n p = 0) :
    ∀ i, i < n → mem (p + i) = 0 := by
  induction n generalizing p with
  | zero => intro i hi; omega
  | succ n ih =>
    rw [loadWord] at h
    intro i hi
    cases i with
    | zero => exact UInt8.toNat_inj.mp (by simp only [Nat.add_zero, UInt8.toNat_zero]; omega)
    | succ i =>
      have := ih (p := p + 1) (by omega) i (by omega)
      rwa [Nat.add_right_comm, Nat.add_assoc] at this

namespace CardTable

variable (t : CardTable) (wordSize : Nat) (minimumAge : UInt8)

/-! ## The four loops -/

/-- The tail loop visits the qualifying cards of `[card_cur, card_end)`. -/
theorem scanTail_eq (cardEnd : Nat) :
    ∀ (n card : Nat) (s : ScanState), card + n = cardEnd →
      t.scanTail minimumAge cardEnd n card s = s.visitList (t.qualifying minimumAge card n) := by
  intro n
  induction n with
  | zero => intro card s _; simp [scanTail]
  | succ n ih =>
    intro card s hend
    rw [scanTail, if_pos (by omega), ih (card + 1) _ (by omega), scanCard_eq,
      ScanState.visitList_visitList, ← qualifying_succ]

/-- The head loop run for `j` cards: it visits their qualifying cards and stops after them, when
the `j` cards are off word boundaries and before `card_end` and the card after them is not. -/
theorem scanHead_eq (cardEnd : Nat) :
    ∀ (j fuel card : Nat) (s : ScanState), j ≤ fuel →
      (∀ i, i < j → Align.isAligned wordSize (card + i) = false ∧ card + i < cardEnd) →
      (Align.isAligned wordSize (card + j) = true ∨ cardEnd ≤ card + j) →
      t.scanHead wordSize minimumAge cardEnd fuel card s =
        (card + j, s.visitList (t.qualifying minimumAge card j)) := by
  intro j
  induction j with
  | zero =>
    intro fuel card s _ _ hstop
    cases fuel with
    | zero => simp [scanHead]
    | succ fuel =>
      have hnot : ¬(Align.isAligned wordSize card = false ∧ card < cardEnd) := by
        rintro ⟨ha, hlt⟩
        rcases hstop with h | h
        · rw [Nat.add_zero, ha] at h; exact Bool.false_ne_true h
        · omega
      simp [scanHead, hnot]
  | succ j ih =>
    intro fuel card s hfuel hrun hstop
    obtain ⟨fuel, rfl⟩ : ∃ f, fuel = f + 1 := ⟨fuel - 1, by omega⟩
    have h0 := hrun 0 (Nat.succ_pos j)
    rw [Nat.add_zero] at h0
    have hrun' : ∀ i, i < j →
        Align.isAligned wordSize (card + 1 + i) = false ∧ card + 1 + i < cardEnd := by
      intro i hi
      rw [Nat.add_assoc, Nat.add_comm 1 i]
      exact hrun (i + 1) (by omega)
    have hstop' : Align.isAligned wordSize (card + 1 + j) = true ∨ cardEnd ≤ card + 1 + j := by
      rwa [Nat.add_assoc, Nat.add_comm 1 j]
    rw [scanHead, if_pos h0, ih fuel (card + 1) _ (by omega) hrun' hstop', scanCard_eq,
      ScanState.visitList_visitList, ← qualifying_succ, Nat.add_assoc, Nat.add_comm 1 j]

/-- The byte loop over a word loaded at `card` visits its qualifying cards. -/
theorem scanWordBytes_eq :
    ∀ (n card : Nat) (s : ScanState), t.biasedBegin ≤ card →
      scanWordBytes minimumAge n (loadWord t.cards n card) (t.addrFromCard card) s =
        s.visitList (t.qualifying minimumAge card n) := by
  intro n
  induction n with
  | zero => intro card s _; simp [scanWordBytes]
  | succ n ih =>
    intro card s hcard
    have hvisit : (if (loadWord t.cards (n + 1) card).toUInt8 ≥ minimumAge then
        s.visit (t.addrFromCard card) else s) = t.scanCard minimumAge s card := by
      rw [loadWord_succ_toUInt8, scanCard]
    rw [scanWordBytes, hvisit, loadWord_succ_shiftRight, addrFromCard_succ t hcard,
      ih (card + 1) _ (by omega), scanCard_eq, ScanState.visitList_visitList, ← qualifying_succ]

/-- The word loop over `j` whole words from `card`: zero words are skipped, and the others have
their cards decoded, so it visits the qualifying cards of the `j` words. -/
theorem scanWords_eq (hw : 0 < wordSize) (hm : 0 < minimumAge) (wordEnd : Nat) :
    ∀ (j fuel card : Nat) (s : ScanState), card + j * wordSize = wordEnd → j ≤ fuel →
      t.biasedBegin ≤ card →
      t.scanWords wordSize minimumAge wordEnd fuel card s =
        s.visitList (t.qualifying minimumAge card (j * wordSize)) := by
  intro j
  induction j with
  | zero =>
    intro fuel card s hend _ _
    cases fuel with
    | zero => simp [scanWords]
    | succ fuel => simp [scanWords, show ¬card < wordEnd by omega]
  | succ j ih =>
    intro fuel card s hend hfuel hcard
    obtain ⟨fuel, rfl⟩ : ∃ f, fuel = f + 1 := ⟨fuel - 1, by omega⟩
    have hlt : card < wordEnd := by rw [Nat.succ_mul] at hend; omega
    have hsplit : (j + 1) * wordSize = wordSize + j * wordSize := by
      rw [Nat.succ_mul, Nat.add_comm]
    have ih' : ∀ s', t.scanWords wordSize minimumAge wordEnd fuel (card + wordSize) s' =
        s'.visitList (t.qualifying minimumAge (card + wordSize) (j * wordSize)) := fun s' =>
      ih fuel (card + wordSize) s' (by rw [Nat.succ_mul] at hend; omega) (by omega) (by omega)
    rw [hsplit, qualifying_add, scanWords, if_pos hlt]
    dsimp only
    split_ifs with hz
    · rw [ih', qualifying_eq_nil t minimumAge hm (loadWord_eq_zero hz), List.nil_append]
    · rw [scanWordBytes_eq t minimumAge wordSize card s hcard, ih', ScanState.visitList_visitList]

/-! ## The scan -/

variable {k : Nat}

/-- The end of the word loop is `card_end` rounded down to a word. -/
theorem alignedEnd_eq (cardEnd : Nat) :
    cardEnd - (cardEnd &&& (2 ^ k - 1)) = Align.roundDown cardEnd (2 ^ k) := rfl

/-- When the head loop reaches a word boundary inside the card range, `Scan` visits exactly the
cards of the range whose value is at least `minimum_age`, once each and in order, and returns
their number. -/
theorem scan_of_roundUp_le {scanBegin scanEnd : Nat} (hw : wordSize = 2 ^ k) (hm : 0 < minimumAge)
    (hal : Align.roundUp (t.cardFromAddr scanBegin) wordSize ≤
      t.cardFromAddr (Align.roundUp scanEnd kCardSize)) :
    t.scan wordSize minimumAge scanBegin scanEnd =
      ⟨(t.scanSpec minimumAge scanBegin scanEnd).length, t.scanSpec minimumAge scanBegin scanEnd⟩ := by
  subst hw
  have hbb := t.le_cardFromAddr scanBegin
  unfold scan scanSpec
  dsimp only
  rw [alignedEnd_eq]
  generalize t.cardFromAddr scanBegin = cb at hal hbb ⊢
  generalize t.cardFromAddr (Align.roundUp scanEnd kCardSize) = ce at hal ⊢
  obtain ⟨hcb, -, hc₁⟩ := Align.roundUp_properties (k := k) cb
  obtain ⟨hc₂ce, -, hc₂⟩ := Align.roundDown_properties (k := k) ce
  have h₁₂ : Align.roundUp cb (2 ^ k) ≤ Align.roundDown ce (2 ^ k) := Align.le_roundDown hc₁ hal
  have hhead := t.scanHead_eq (2 ^ k) minimumAge ce (Align.roundUp cb (2 ^ k) - cb) (ce - cb) cb
    ⟨0, []⟩ (by omega)
    (fun i hi => ⟨by
      rw [Bool.eq_false_iff, ne_eq, Align.isAligned_iff]
      exact Align.mod_ne_zero_of_lt_roundUp (x := cb) (by omega) (by omega), by omega⟩)
    (Or.inl (by rw [Nat.add_sub_cancel' hcb, Align.isAligned_iff]; exact hc₁))
  rw [Nat.add_sub_cancel' hcb] at hhead
  obtain ⟨j, hj⟩ : 2 ^ k ∣ Align.roundDown ce (2 ^ k) - Align.roundUp cb (2 ^ k) :=
    Nat.dvd_of_mod_eq_zero (Nat.sub_mod_eq_zero_of_mod_eq (by rw [hc₁, hc₂]))
  rw [Nat.mul_comm] at hj
  have hwords := t.scanWords_eq (2 ^ k) minimumAge (Nat.two_pow_pos k) hm
    (Align.roundDown ce (2 ^ k)) j (Align.roundDown ce (2 ^ k) - Align.roundUp cb (2 ^ k))
    (Align.roundUp cb (2 ^ k))
    (ScanState.visitList ⟨0, []⟩ (t.qualifying minimumAge cb (Align.roundUp cb (2 ^ k) - cb)))
    (by omega) (by rw [hj]; exact Nat.le_mul_of_pos_right j (Nat.two_pow_pos k))
    (Nat.le_trans hbb hcb)
  have htail := fun s => t.scanTail_eq minimumAge ce (ce - Align.roundDown ce (2 ^ k))
    (Align.roundDown ce (2 ^ k)) s (by omega)
  rw [hhead, hwords, htail, ScanState.visitList_visitList]
  have hsplit : ce - cb = (Align.roundUp cb (2 ^ k) - cb) +
      (j * 2 ^ k + (ce - Align.roundDown ce (2 ^ k))) := by omega
  rw [hsplit, qualifying_add, qualifying_add, Nat.add_sub_cancel' hcb,
    show Align.roundUp cb (2 ^ k) + j * 2 ^ k = Align.roundDown ce (2 ^ k) by omega]
  simp [ScanState.visitList]

/-- When the card range starts off a word boundary and ends before the next one, the head loop
visits the whole range, and the tail loop, restarted from the word boundary below `card_end`,
visits the cards of that word up to `card_end` again. -/
theorem scan_of_lt_roundUp {scanBegin scanEnd : Nat} (hw : wordSize = 2 ^ k)
    (hse : scanBegin ≤ scanEnd)
    (hlt : t.cardFromAddr (Align.roundUp scanEnd kCardSize) <
      Align.roundUp (t.cardFromAddr scanBegin) wordSize) :
    t.scan wordSize minimumAge scanBegin scanEnd =
      ScanState.visitList ⟨0, []⟩ (t.scanSpec minimumAge scanBegin scanEnd ++
        t.qualifying minimumAge (Align.roundDown (t.cardFromAddr (Align.roundUp scanEnd kCardSize))
          wordSize) (t.cardFromAddr (Align.roundUp scanEnd kCardSize) -
            Align.roundDown (t.cardFromAddr (Align.roundUp scanEnd kCardSize)) wordSize)) := by
  subst hw
  have hle : t.cardFromAddr scanBegin ≤ t.cardFromAddr (Align.roundUp scanEnd kCardSize) :=
    t.cardFromAddr_mono (Nat.le_trans hse (Align.roundUp_properties (k := 7) scanEnd).1)
  unfold scan scanSpec
  dsimp only
  rw [alignedEnd_eq]
  generalize t.cardFromAddr scanBegin = cb at hle hlt ⊢
  generalize t.cardFromAddr (Align.roundUp scanEnd kCardSize) = ce at hle hlt ⊢
  obtain ⟨hc₂ce, -, -⟩ := Align.roundDown_properties (k := k) ce
  have hhead := t.scanHead_eq (2 ^ k) minimumAge ce (ce - cb) (ce - cb) cb ⟨0, []⟩ (Nat.le_refl _)
    (fun i hi => ⟨by
      rw [Bool.eq_false_iff, ne_eq, Align.isAligned_iff]
      exact Align.mod_ne_zero_of_lt_roundUp (x := cb) (by omega) (by omega), by omega⟩)
    (Or.inr (by omega))
  rw [Nat.add_sub_cancel' hle] at hhead
  have htail := t.scanTail_eq minimumAge ce (ce - Align.roundDown ce (2 ^ k))
    (Align.roundDown ce (2 ^ k)) (ScanState.visitList ⟨0, []⟩ (t.qualifying minimumAge cb (ce - cb)))
    (by omega)
  rw [hhead, Nat.sub_eq_zero_of_le hc₂ce, scanWords, htail, ScanState.visitList_visitList]

/-- On a 64-bit heap whose cards 0x70, 0x71 and 0x72 are dirty, the scan of `[128, 384)` covers
the cards 0x71 and 0x72, which share a word with `card_end` = 0x73: the head loop visits both,
then the tail loop restarts at 0x70 and visits 0x70, 0x71 and 0x72, so `Scan` returns 5. -/
theorem scan_visits_cards_twice :
    let t : CardTable := (((CardTable.clean 0x70 (by decide)).markCard 0).markCard 128).markCard 256
    t.scan 8 kCardDirty 128 384 = ⟨5, [128, 256, 0, 128, 256]⟩ ∧
      t.scanSpec kCardDirty 128 384 = [128, 256] := by
  decide

end CardTable

end Art
