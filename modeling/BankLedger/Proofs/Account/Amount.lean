import BankLedger.Proofs.Account.Guards
import BankLedger.Proofs.Decimal.Normal
import BankLedger.Proofs.Encoding
import BankLedger.Proofs.Store.Change

/-!
# Amounts and Where They Come From

An amount comes into the ledger in three ways: a request brings a number, which is checked, or it is
read from a text, by itself or as a part of a hold. Only the first way looks at the sign. A text
gives whatever decimal is in it, so there every decimal comes by, below zero as well as above.

Behind that point nothing asks for the sign again, but the balances count on it. What is available
is compared with an amount before it is set aside, which holds back what is too large and nothing
else. So an amount below zero is set aside, which raises what is available, and its release lowers
it.

The directions are right exactly for the amounts that are not below zero. That they are right for
these is due to rounding, which never carries a sum to the other side of where it began. That they
are wrong for the others is seen on an account with nothing on it, where the sum is exact.

## Main definitions

* `Amount.KeepsSides`: Holds of the amount move what is available in the right direction.
* `Amount.KeepsPromise`: The amount is above zero, and its holds move in the right direction.
* `Amount.Source`: Where an amount comes from.
* `Amount.Source.Unchecked`: The decimals that are taken from there as they stand.

## Theorems

* `Store.exists_setAccount`: All accounts compare with what they were when one is changed.
* `Account.exists_reserve_of_neg`: An amount below zero raises what is available.
* `Amount.keepsSides_iff`: The amounts that move in the right direction.
* `Amount.Source.exists_unchecked_text`, `Amount.Source.exists_unchecked_hold`: Any number may come
  from a text.
* `Amount.source_keepsPromise_iff`: The sources that keep the promise.
-/

namespace BankLedger

namespace Store

variable {s : Store} {a b c : Account} {k id : AccountId}

/-- If one account is changed to another that compares with it, all accounts compare with what they
    were. -/
theorem exists_setAccount {R : Account → Account → Prop} (hrefl : ∀ x, R x x)
    (ha : s.accounts.get? k = some a) (hid : b.id = a.id) (hab : R a b)
    (hc : s.accounts.get? id = some c) :
    ∃ d, (s.setAccount b).accounts.get? id = some d ∧ R c d := by
  rw [get?_setAccount ha hid]
  by_cases hk : k = id
  · subst hk
    rw [ha] at hc
    cases hc
    exact ⟨b, if_pos rfl, hab⟩
  · exact ⟨c, (if_neg hk).trans hc, hrefl c⟩

end Store

namespace Account

open Decimal

variable {a : Account} {amount : Amount}

/-- An amount below zero is set aside where nothing is available, and then something is. -/
theorem exists_reserve_of_neg (hamount : amount.value.toRat < 0) (hzero : a.available.toRat = 0)
    (now : Instant) :
    ∃ b, a.reserve amount now = .ok b ∧ b.id = a.id ∧ 0 < b.available.toRat := by
  have hvalue : (-amount.value).toRat = -amount.value.toRat := toRat_neg _
  have hexact : Representable (a.available.toRat + (-amount.value).toRat) := by
    rw [hzero, zero_add]
    exact representable_toRat _
  rcases add?_of_representable hexact with ⟨r, hsum, hr⟩
  have hlt : a.available.lt amount.value = false := by
    rw [Bool.eq_false_iff, Ne, lt_iff, hzero]
    linarith
  refine ⟨_, (reserve_eq_ok_iff _ _ _ _).mpr ⟨hlt, r, hsum, rfl⟩, rfl, ?_⟩
  change 0 < r.toRat
  rw [hr, hzero, hvalue]
  linarith

end Account

namespace Amount

open Decimal
open Json (decodeText)

/-- A hold of the amount never raises what is available when it is made, and never lowers it when
    it is released, on any account of any store. -/
structure KeepsSides (a : Amount) : Prop where
  made : ∀ (s t : Store) (h : Hold) (now : Instant), h.amount = a → s.createHold h now = .ok t →
    ∀ id b, s.accounts.get? id = some b →
      ∃ c, t.accounts.get? id = some c ∧ c.available.toRat ≤ b.available.toRat
  released : ∀ (s t : Store) (h r : Hold) (k : HoldId) (now : Instant),
    s.holds.get? k = some h → h.amount = a → s.releaseHold k now = .ok (r, t) →
    ∀ id b, s.accounts.get? id = some b →
      ∃ c, t.accounts.get? id = some c ∧ b.available.toRat ≤ c.available.toRat

/-- An amount that is not below zero moves what is available in the right direction. -/
theorem keepsSides_of_nonneg {a : Amount} (ha : 0 ≤ a.value.toRat) : a.KeepsSides where
  made := by
    rintro s t h now rfl hmade id b hb
    rcases (Store.createHold_eq_ok_iff s t h now).mp hmade with
      ⟨old, new, holds, hold, -, hreserve, rfl⟩
    have hchange : Store.Change now (.createHold h) old new := .held hreserve
    exact Store.exists_setAccount (R := fun x y => y.available.toRat ≤ x.available.toRat)
      (fun _ => le_rfl) hold hchange.id_eq (Account.available_le_of_reserve ha hreserve) hb
  released := by
    rintro s t h r k now hfound rfl hreleased id b hb
    rcases (Store.releaseHold_eq_ok_iff s t k now r).mp hreleased with
      ⟨g, old, new, hg, hold, -, -, hrestore, rfl⟩
    obtain rfl : h = g := Option.some.inj (hfound.symm.trans hg)
    have hchange : Store.Change now (.releaseHold k now) old new := .released hrestore
    exact Store.exists_setAccount (R := fun x y => x.available.toRat ≤ y.available.toRat)
      (fun _ => le_rfl) hold hchange.id_eq (Account.le_available_of_restore ha hrestore) hb

/-- A store with one new account in it. -/
def freshStore : Store := Store.empty.after .epoch (.createAccount .untouched)

/-- A hold of an amount on that account. -/
def freshHold (a : Amount) : Hold := .start default Account.untouched.id a "" none none .epoch

/-- An amount below zero raises what is available on a new account. -/
theorem not_keepsSides_of_neg {a : Amount} (ha : a.value.toRat < 0) : ¬ a.KeepsSides := by
  intro hsides
  have hfound : freshStore.accounts.get? Account.untouched.id = some .untouched := rfl
  rcases Table.exists_insert? (t := freshStore.holds) (r := freshHold a) rfl with ⟨holds, hholds⟩
  rcases Account.exists_reserve_of_neg (a := .untouched) ha toRat_zero .epoch with
    ⟨new, hreserve, hid, hpos⟩
  have hcreate := (Store.createHold_eq_ok_iff freshStore _ (freshHold a) .epoch).mpr
    ⟨_, new, holds, hfound, hholds, hreserve, rfl⟩
  rcases hsides.made _ _ _ _ rfl hcreate _ _ hfound with ⟨c, hc, hle⟩
  have hnew : (freshStore.setAccount new).accounts.get? Account.untouched.id = some new := by
    rw [Store.get?_setAccount hfound hid, if_pos rfl]
  have hsame : new = c := Option.some.inj (hnew.symm.trans hc)
  have hzero : Account.untouched.available.toRat = 0 := toRat_zero
  rw [← hsame, hzero] at hle
  linarith

/-- The amounts that move in the right direction are those that are not below zero. -/
theorem keepsSides_iff (a : Amount) : a.KeepsSides ↔ 0 ≤ a.value.toRat := by
  constructor
  · intro hsides
    by_contra hneg
    exact not_keepsSides_of_neg (not_le.mp hneg) hsides
  · exact keepsSides_of_nonneg

/-- What an amount stands for: it is above zero, and its holds move in the right direction. -/
structure KeepsPromise (a : Amount) : Prop where
  positive : 0 < a.value.toRat
  sides : a.KeepsSides

theorem keepsPromise_iff_positive (a : Amount) : a.KeepsPromise ↔ 0 < a.value.toRat :=
  ⟨KeepsPromise.positive, fun h => ⟨h, keepsSides_of_nonneg h.le⟩⟩

/-- Where an amount comes from. -/
inductive Source where
  /-- A number that a request brings. -/
  | checked (d : Decimal)
  /-- The text of an amount. -/
  | text (s : String)
  /-- The text of a hold. -/
  | hold (s : String)

namespace Source

/-- The amount comes from there. -/
def Gives : Source → Amount → Prop
  | .checked d, a => ofDecimal d = .ok a
  | .text s, a => decodeText Decode.amount s = .ok a
  | .hold s, a => ∃ h, decodeText Decode.hold s = .ok h ∧ h.amount = a

/-- The decimal is read from there, and nobody looks at its sign. -/
def Unchecked : Source → Decimal → Prop
  | .checked _, _ => False
  | .text s, d => decodeText Decode.decimal s = .ok d
  | .hold s, d => ∃ h, decodeText Decode.hold s = .ok h ∧ h.amount.value = d

/-- The holds of what comes from there move in the right direction. -/
def KeepsSides (src : Source) : Prop := ∀ a, src.Gives a → a.KeepsSides

/-- What comes from there is an amount as it should be. -/
def KeepsPromise (src : Source) : Prop := ∀ a, src.Gives a → a.KeepsPromise

/-- The decimal in the text of an amount is taken as it stands. -/
theorem gives_text_iff (s : String) (a : Amount) :
    (text s).Gives a ↔ (text s).Unchecked a.value := by
  refine Json.Decoder.decodeText_convert_iff.trans ⟨?_, fun h => ⟨a.value, h, rfl⟩⟩
  rintro ⟨d, hd, heq⟩
  rw [← Option.some.inj heq]
  exact hd

/-- What is true of every number above zero is true of what comes from a source if it is true of
    what is not checked. -/
theorem forall_gives_iff (src : Source) {P : ℚ → Prop} (hP : ∀ q, 0 < q → P q) :
    (∀ a, src.Gives a → P a.value.toRat) ↔ ∀ d, src.Unchecked d → P d.toRat := by
  cases src with
  | checked d =>
      refine ⟨fun _ _ => False.elim, fun _ a ha => ?_⟩
      rcases (ofDecimal_eq_ok_iff d a).mp ha with ⟨hpos, rfl⟩
      exact hP _ hpos
  | text s =>
      simp only [gives_text_iff]
      exact ⟨fun h d hd => h ⟨d⟩ hd, fun h a ha => h a.value ha⟩
  | hold s =>
      constructor
      · rintro h _ ⟨g, hg, rfl⟩
        exact h g.amount ⟨g, hg, rfl⟩
      · rintro h _ ⟨g, hg, rfl⟩
        exact h g.amount.value ⟨g, hg, rfl⟩

/-- The number of any decimal may be read from the text of an amount. -/
theorem exists_unchecked_text (d : Decimal) :
    ∃ s b, (text s).Unchecked b ∧ b.toRat = d.toRat := by
  refine ⟨d.normalize.toJson.toText, d.normalize, ?_, d.toRat_normalize⟩
  have hread := Json.decodeText_toText Decode.decimal (v := d.normalize.toJson) rfl
  exact hread.trans (Decode.decimal_toJson d.isPlain_normalize)

/-- The number of any decimal may be read as the amount of a hold. -/
theorem exists_unchecked_hold (d : Decimal) :
    ∃ s b, (hold s).Unchecked b ∧ b.toRat = d.toRat := by
  have hepoch : Instant.epoch.InCalendar := ⟨by decide, by decide⟩
  have hstorable : (freshHold ⟨d.normalize⟩).IsStorable :=
    ⟨d.isPlain_normalize, nofun, nofun, hepoch⟩
  have hread := (Json.roundTrips_of_decodeValue (Hold.isExact_toJson _)
    (Decode.hold_toJson hstorable)).readBack
  exact ⟨_, _, ⟨_, hread, rfl⟩, d.toRat_normalize⟩

end Source

/-- What comes from a source is an amount as it should be exactly if what is not checked there is
    above zero, and its holds move in the right direction exactly if that is not below zero. Where a
    request brings the number, all is checked. -/
theorem source_keepsPromise_iff (src : Source) :
    (src.KeepsPromise ↔ ∀ d, src.Unchecked d → 0 < d.toRat) ∧
    (src.KeepsSides ↔ ∀ d, src.Unchecked d → 0 ≤ d.toRat) := by
  unfold Source.KeepsPromise Source.KeepsSides
  simp only [keepsPromise_iff_positive, keepsSides_iff]
  exact ⟨src.forall_gives_iff fun _ => id, src.forall_gives_iff fun _ => le_of_lt⟩

/-- Five below zero is read as an amount, and its holds move in the wrong direction. -/
theorem not_keepsPromise_minusFive :
    ¬ (Source.text "\"-5\"").KeepsPromise ∧ ¬ (Source.text "\"-5\"").KeepsSides := by
  have hneg : (Decimal.ofUnits (-5) 0).toRat < 0 := by decide +kernel
  have hread : decodeText Decode.amount "\"-5\"" = .ok ⟨.ofUnits (-5) 0⟩ := by decide +kernel
  constructor
  · intro hpromise
    exact absurd (hpromise _ hread).positive (not_lt.mpr hneg.le)
  · intro hsides
    exact not_keepsSides_of_neg hneg (hsides _ hread)

end Amount

end BankLedger
