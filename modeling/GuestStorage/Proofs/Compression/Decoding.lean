import GuestStorage.Proofs.Bytes
import GuestStorage.Proofs.Compression.Stream

namespace GuestStorage.Lzss

def backwards (text : Bytes) : Array UInt8 := text.reverse.toArray

@[simp] theorem size_backwards (text : Bytes) : (backwards text).size = text.length := by
  simp [backwards]

@[simp] theorem push_backwards (byte : UInt8) (text : Bytes) :
    (backwards text).push byte = backwards (byte :: text) := by
  simp [backwards]

@[simp] theorem toList_backwards (text : Bytes) : (backwards text).toList.reverse = text := by
  simp [backwards]

theorem getElem_backwards {text : Bytes} {index : Nat} (inside : index < text.length)
    (bound : (backwards text).size - 1 - index < (backwards text).size) :
    (backwards text)[(backwards text).size - 1 - index] = text[index] := by
  simp only [backwards, List.size_toArray, List.length_reverse, List.getElem_toArray,
    List.getElem_reverse]
  congr 1
  omega

theorem copyBack_backwards (index count : Nat) (text : Bytes) :
    copyBack index count (backwards text) = (repeatFrom index count text).map backwards := by
  induction count generalizing text with
  | zero => rfl
  | succ count ih =>
      by_cases inside : index < text.length
      · rw [copyBack, dif_pos (by simpa), getElem_backwards inside, push_backwards, ih]
        simp [repeatFrom, inside]
      · rw [copyBack, dif_neg (by simpa using inside)]
        simp [repeatFrom, inside]

theorem length_repeatFrom {index count : Nat} {text final : Bytes}
    (builds : repeatFrom index count text = some final) : final.length = text.length + count := by
  induction count generalizing text with
  | zero => simp_all [repeatFrom]
  | succ count ih =>
      rw [repeatFrom] at builds
      split at builds
      · contradiction
      · have := ih builds
        simp only [List.length_cons] at this
        omega

theorem word_eq (reference : BackReference) :
    reference.word = (reference.length - 3) * 0x1000 + reference.field := by
  rw [BackReference.word, ← Nat.shiftLeft_add_eq_or_of_lt reference.field_lt, Nat.shiftLeft_eq]

theorem stored_copy (reference : BackReference) :
    (Token.copy reference).stored =
      [.ofNat reference.word, .ofNat (reference.word / 256)] := rfl

theorem word_of_stored (reference : BackReference) :
    (UInt8.ofNat reference.word).toNat + 256 * (UInt8.ofNat (reference.word / 256)).toNat =
      reference.word := by
  have small := reference.field_lt
  have long := reference.length_le
  have value := word_eq reference
  simp only [UInt8.toNat_ofNat']
  omega

theorem control_lt_iff (control : UInt8) : control < 0x80 ↔ control.toNat.testBit 7 = false := by
  have bound := control.toNat_lt
  rw [UInt8.lt_iff_toNat_lt, Nat.testBit_eq_decide_div_mod_eq, decide_eq_false_iff_not]
  change control.toNat < 128 ↔ _
  omega

theorem testBit_shift (control : UInt8) {place : Nat} (bound : place < 7) :
    (control <<< 1).toNat.testBit (7 - place) = control.toNat.testBit (7 - (place + 1)) := by
  have shifted : (control <<< 1).toNat = control.toNat <<< 1 % 2 ^ 8 := by
    rw [UInt8.toNat_shiftLeft]
    rfl
  rw [shifted, Nat.testBit_mod_two_pow, Nat.testBit_shiftLeft, decide_eq_true (by omega),
    decide_eq_true (by omega), Bool.true_and, Bool.true_and]
  congr 1

theorem Marks.head {control : UInt8} {token : Token} {tokens : List Token}
    (marked : Marks control (token :: tokens)) : control < 0x80 ↔ token.isCopy = false := by
  rw [control_lt_iff]
  exact iff_of_eq (congrArg (· = false) (marked 0 (by simp)))

theorem Marks.tail {control : UInt8} {token : Token} {tokens : List Token}
    (marked : Marks control (token :: tokens)) (short : tokens.length < 8) :
    Marks (control <<< 1) tokens := by
  intro place inside
  rw [testBit_shift control (by omega)]
  exact marked (place + 1) (by simpa using inside)

theorem Token.length_le_of_prepend {token : Token} {text longer : Bytes}
    (builds : token.prepend text = some longer) :
    text.length < longer.length ∧ longer.length ≤ text.length + 9 * token.stored.length := by
  cases token with
  | literal byte =>
      simp only [prepend, Option.some.injEq] at builds
      simp [← builds, stored]
  | copy reference =>
      have := length_repeatFrom builds
      have := reference.length_ge
      have := reference.length_le
      simp [stored]
      omega

theorem length_le_of_foldlM {tokens : List Token} {text final : Bytes}
    (builds : tokens.foldlM Token.prepend text = some final) :
    text.length ≤ final.length ∧
      final.length ≤ text.length + 9 * (tokens.flatMap Token.stored).length := by
  induction tokens generalizing text with
  | nil => simp_all
  | cons token tokens ih =>
      obtain ⟨longer, prepended, builds⟩ := Option.bind_eq_some_iff.mp builds
      have first := Token.length_le_of_prepend prepended
      have others := ih builds
      simp only [List.flatMap_cons, List.length_append]
      omega

@[simp] theorem length_storedGroup (control : UInt8) (tokens : List Token) :
    (storedGroup control tokens).length = (tokens.flatMap Token.stored).length + 1 := by
  simp [storedGroup, List.length_flatMap, List.map_reverse, List.sum_reverse]

theorem Layout.length_ge {tokens : List Token} {stored : Bytes} (layout : Layout tokens stored) :
    (tokens.flatMap Token.stored).length ≤ stored.length := by
  induction layout with
  | empty => simp
  | lowest control tokens marked short => simp
  | above control tokens rest stored marked full below ih =>
      simp only [List.flatMap_append, List.length_append, length_storedGroup]
      omega

theorem length_denoted {tokens : List Token} {text stored : Bytes}
    (denotes : denote tokens = some text) (layout : Layout tokens stored) :
    text.length ≤ 9 * stored.length := by
  have built := (length_le_of_foldlM denotes).2
  have := layout.length_ge
  simp only [List.length_nil] at built
  omega

@[simp] theorem expand_zero (total bits : Nat) (control : UInt8) (source : Bytes) (built : Array UInt8) :
    expand total 0 bits control source built = .ok built := by
  cases source <;> rfl

@[simp] theorem expand_control (total left : Nat) (control next : UInt8) (rest : Bytes)
    (built : Array UInt8) :
    expand total (left + 1) 0 control (next :: rest) built = expand total left 8 next rest built :=
  rfl

theorem expand_token {total left bits : Nat} {control : UInt8} {token : Token}
    {text longer : Bytes} (rest : Bytes) (kind : control < 0x80 ↔ token.isCopy = false)
    (builds : token.prepend text = some longer) (room : longer.length ≤ total) :
    expand total (left + token.stored.length) (bits + 1) control (token.stored.reverse ++ rest)
      (backwards text) = expand total left bits (control <<< 1) rest (backwards longer) := by
  have grows := (Token.length_le_of_prepend builds).1
  have unfinished : ¬ total ≤ (backwards text).size := by
    simp
    omega
  cases token with
  | literal byte =>
      have low : control < 0x80 := kind.mpr rfl
      simp only [Token.prepend, Option.some.injEq] at builds
      subst builds
      rw [← push_backwards]
      simp only [Token.stored, List.length_singleton, List.reverse_singleton, List.cons_append,
        List.nil_append]
      rw [expand.eq_def]
      simp only [if_neg unfinished, if_pos low]
  | copy reference =>
      have high : ¬ control < 0x80 := fun low => Bool.noConfusion (kind.mp low)
      have value := word_eq reference
      have small := reference.field_lt
      have count : reference.word / 4096 + 3 = reference.length := by
        have := reference.length_ge
        omega
      have field : reference.word % 4096 + 2 = reference.field + 2 := by omega
      have fits : ¬ total < (backwards text).size + reference.length := by
        have := length_repeatFrom builds
        simp
        omega
      have copies : copyBack (reference.field + 2) reference.length (backwards text) =
          some (backwards longer) := by
        rw [copyBack_backwards, show repeatFrom _ _ text = some longer from builds]
        rfl
      rw [stored_copy]
      simp only [List.length_cons, List.length_nil, List.reverse_cons, List.reverse_nil,
        List.nil_append, List.cons_append]
      rw [expand, if_neg unfinished, if_neg high]
      simp only [word_of_stored, count, field, if_neg fits, copies, Nat.add_sub_cancel]

theorem expand_tokens {total : Nat} (left bits : Nat) {control : UInt8} {tokens : List Token}
    {text final : Bytes} (rest : Bytes) (marked : Marks control tokens) (short : tokens.length ≤ 8)
    (builds : tokens.foldlM Token.prepend text = some final) (room : final.length ≤ total) :
    ∃ next, expand total (left + (tokens.flatMap Token.stored).length) (bits + tokens.length) control
      ((tokens.flatMap fun token => token.stored.reverse) ++ rest) (backwards text) =
        expand total left bits next rest (backwards final) := by
  induction tokens generalizing control text with
  | nil =>
      obtain rfl : text = final := Option.some.inj builds
      exact ⟨control, rfl⟩
  | cons token tokens ih =>
      obtain ⟨longer, prepended, builds⟩ := Option.bind_eq_some_iff.mp builds
      have fits : longer.length ≤ total := Nat.le_trans (length_le_of_foldlM builds).1 room
      have fewer : tokens.length < 8 := short
      obtain ⟨next, reads⟩ := ih (marked.tail fewer) (Nat.le_of_lt fewer) builds
      refine ⟨next, ?_⟩
      rw [← reads, List.flatMap_cons, List.flatMap_cons, List.append_assoc, List.length_append,
        List.length_cons, Nat.add_comm token.stored.length, ← Nat.add_assoc, ← Nat.add_assoc]
      exact expand_token _ marked.head prepended fits

@[simp] theorem reverse_storedGroup (control : UInt8) (tokens : List Token) :
    (storedGroup control tokens).reverse =
      control :: tokens.flatMap fun token => token.stored.reverse := by
  simp only [storedGroup, List.reverse_append, List.reverse_singleton, List.singleton_append,
    List.reverse_flatMap, List.reverse_reverse]
  rfl

theorem expand_layout {tokens : List Token} {stored : Bytes} (layout : Layout tokens stored)
    {total : Nat} {text final : Bytes} (control : UInt8) (rest : Bytes)
    (builds : tokens.foldlM Token.prepend text = some final) (room : final.length ≤ total) :
    expand total stored.length 0 control (stored.reverse ++ rest) (backwards text) =
      .ok (backwards final) := by
  induction layout generalizing control text with
  | empty =>
      obtain rfl : text = final := Option.some.inj builds
      exact expand_zero ..
  | lowest mark tokens marked short =>
      obtain ⟨next, reads⟩ := expand_tokens 0 (8 - tokens.length) rest marked short builds room
      rw [length_storedGroup, reverse_storedGroup, List.cons_append, expand_control]
      rw [Nat.zero_add, Nat.sub_add_cancel short] at reads
      rw [reads, expand_zero]
  | above mark tokens more stored marked full below ih =>
      rw [List.foldlM_append] at builds
      obtain ⟨middle, first, builds⟩ := Option.bind_eq_some_iff.mp builds
      have fits : middle.length ≤ total := Nat.le_trans (length_le_of_foldlM builds).1 room
      obtain ⟨next, reads⟩ := expand_tokens stored.length 0 (stored.reverse ++ rest) marked
        (Nat.le_of_eq full) first fits
      rw [List.length_append, length_storedGroup, List.reverse_append, reverse_storedGroup,
        List.append_assoc, List.cons_append, ← Nat.add_assoc, expand_control]
      rw [Nat.zero_add, full] at reads
      rw [reads]
      exact ih next builds

@[simp] theorem growth_footer (front : Bytes) (top bottom : Nat) {grown : Nat}
    (small : grown < UInt32.size) :
    growth (front ++ footer top bottom grown) = grown := by
  have position : (front ++ footer top bottom grown).length - 4 =
      (front ++ Bytes.ofNatLE 4 (top * 0x1000000 + bottom)).length := by
    simp [footer]
  have word := Bytes.word32_append (front ++ Bytes.ofNatLE 4 (top * 0x1000000 + bottom)) [] grown
  rw [List.append_nil, List.append_assoc] at word
  rw [growth, position, footer, word, UInt32.toNat_ofNat_of_lt' small]

@[simp] theorem streamBounds_footer (front : Bytes) {top bottom : Nat} (grown : Nat) (topSmall : top < 256)
    (bottomSmall : bottom < 0x1000000) :
    streamBounds (front ++ footer top bottom grown) = (top, bottom) := by
  have position : (front ++ footer top bottom grown).length - footerSize = front.length := by
    simp [footer, footerSize]
  have small : top * 0x1000000 + bottom < UInt32.size := by
    simp only [UInt32.size]
    omega
  rw [streamBounds, position, footer, ← List.append_assoc, Bytes.word32_append,
    UInt32.toNat_ofNat_of_lt' small, Prod.mk.injEq]
  constructor <;> omega

theorem growth_bound (plain padding : Bytes) {tokens : List Token} {text stored : Bytes}
    (denotes : denote tokens = some text) (layout : Layout tokens stored) :
    plain.length + text.length - (plain.length + reach stored padding) ≤
      maxGrowth * stored.length := by
  have := length_denoted denotes layout
  simp only [reach, footerSize, maxGrowth]
  omega

theorem decompressedSize_packed {plain stored padding : Bytes} {total : Nat}
    (grows : plain.length + reach stored padding ≤ total)
    (guarded : total - (plain.length + reach stored padding) ≤ maxGrowth * stored.length)
    (near : reach stored padding < 0x1000000) :
    decompressedSize (packed plain stored padding total) = .ok total := by
  have size := length_packed plain stored padding total
  simp only [reach, maxGrowth] at guarded near
  have extra : growth (packed plain stored padding total) =
      total - (plain.length + reach stored padding) := growth_footer _ _ _ (by
    simp only [reach, UInt32.size]
    omega)
  rw [decompressedSize, size, extra, if_neg, if_neg]
  · congr 1
    omega
  · simp only [reach, maxGrowth]
    omega
  · simp only [reach]
    omega

theorem take_packed (plain stored padding : Bytes) (total : Nat) :
    (packed plain stored padding total).take (plain.length + stored.length) = plain ++ stored := by
  rw [packed, List.append_assoc]
  apply List.take_left'
  rw [List.length_append]

/-- Every layout of every token list decodes, and the guard on the growth lets it pass. -/
theorem decompress_packed (plain padding : Bytes) {tokens : List Token} {text stored : Bytes}
    (denotes : denote tokens = some text) (layout : Layout tokens stored)
    (padded : padding.length ≤ 247) (near : reach stored padding < 0x1000000)
    (grows : (packed plain stored padding (plain.length + text.length)).length ≤
      plain.length + text.length) :
    decompressedSize (packed plain stored padding (plain.length + text.length)) =
        .ok (plain.length + text.length) ∧
      decompress (packed plain stored padding (plain.length + text.length)) =
        .ok (plain ++ text) := by
  have size := length_packed plain stored padding (plain.length + text.length)
  rw [size] at grows
  have accepted := decompressedSize_packed grows (growth_bound plain padding denotes layout) near
  have bounds : streamBounds (packed plain stored padding (plain.length + text.length)) =
      (padding.length + footerSize, reach stored padding) :=
    streamBounds_footer _ _ (by simp only [footerSize]; omega) near
  have inside : ¬ (plain.length + reach stored padding < padding.length + footerSize ∨
      plain.length + reach stored padding < reach stored padding) := by
    simp only [reach]
    omega
  have start : plain.length + reach stored padding - (padding.length + footerSize) =
      plain.length + stored.length := by
    simp only [reach]
    omega
  have span : reach stored padding - (padding.length + footerSize) = stored.length := by
    simp only [reach]
    omega
  have reads : expand (plain.length + text.length) stored.length 0 0
      (stored.reverse ++ plain.reverse) #[] = .ok (backwards text) :=
    expand_layout layout 0 plain.reverse denotes (Nat.le_add_left ..)
  have kept : (Bytes.fit (plain.length + text.length)
      (packed plain stored padding (plain.length + text.length))).take plain.length = plain := by
    rw [Bytes.take_fit (by omega) (by omega), packed, List.append_assoc, List.append_assoc,
      List.take_left]
  refine ⟨accepted, ?_⟩
  simp only [decompress, accepted, bounds, size, if_neg inside]
  rw [start, span, take_packed, List.reverse_append, reads]
  simp [kept]

def overlapping : List Token :=
  [.literal 0x63, .literal 0x62, .literal 0x61, .copy ⟨18, 0, by decide, by decide, by decide⟩,
    .copy ⟨3, 1, by decide, by decide, by decide⟩]

def overlapped : Bytes := [0x62, 0x63, 0x61] ++ (List.replicate 7 [0x61, 0x62, 0x63]).flatten

theorem decompress_packed_overlapping :
    denote overlapping = some overlapped ∧
      decompress (packed [0x50, 0x51] (storedGroup 0x1F overlapping) [0xFF, 0xFF] 26) =
        .ok ([0x50, 0x51] ++ overlapped) := by
  have denotes : denote overlapping = some overlapped := by decide
  have marked : Marks 0x1F overlapping := by decide
  exact ⟨denotes, (decompress_packed [0x50, 0x51] [0xFF, 0xFF] denotes
    (.lowest 0x1F overlapping marked (by decide)) (by decide) (by decide) (by decide)).2⟩

end GuestStorage.Lzss
