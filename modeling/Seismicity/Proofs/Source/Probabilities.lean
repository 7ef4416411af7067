import Seismicity.Proofs.Source.Enumeration
import Seismicity.Proofs.Source.Pooling
import Seismicity.Proofs.Source.Sampling

/-!
# Probabilities of Occurrence

Splitting and merging rates does not change how probable it is that a source ruptures.

Ruptures occur independently of each other. So the probability that none of them occurs is
the product of the probabilities that each of them does not, and each factor is an exponential
of the rate. The product over many rates is therefore one such factor, of their sum
(`prod_complement`), and from there on nothing is about probabilities any more: what several
ruptures come to depends on the sum of their rates only (`jointProbability?_eq`), and every
enumeration of a source carries its total rate.

That needs all ruptures to have one occurrence in time. Averaged ruptures take theirs from the
source that averages, but the full enumeration of a cluster takes it from the members, one by
one. The two agree because forming a cluster compares the members with the first of them, and
nothing that is done with a cluster later changes a member (`Formed.occurrence`).

## Main definitions

* `jointProbability?`: The probability that some rupture occurs.
* `PointLike.Formed`: Point sources, and clusters as they come about.
* `lastingPair`: Two sources over fifty years.

## Theorems

* `Poisson.complement_add`, `Poisson.prod_complement`: No occurrence at a sum of rates.
* `Poisson.probability_range`: What a rate that is not negative comes to.
* `jointProbability?_eq`, `jointProbability?_flatMap`: Ruptures of one occurrence in time.
* `PointLike.Formed.occurrence`: The members of a source have its occurrence in time.
* `PointLike.jointProbability?_ruptures`, `PointLike.jointProbability?_averagedRuptures`: The
  two enumerations of a source.
* `Cluster.occurrence_of_form`, `Cluster.exists_form_iff`: Clusters of sources of one occurrence
  in time.
* `probabilities_compose`: The probability of a source, however it is enumerated.
-/

namespace Seismicity

/-- The probability that at least one of several ruptures occurs, when they occur independently.
    It is known if that of each rupture is. -/
noncomputable def jointProbability? (ruptures : List (Rupture ℝ)) : Option ℝ :=
  (ruptures.mapM Rupture.probability?).map fun probabilities =>
    1 - (probabilities.map fun probability => 1 - probability).prod

namespace Poisson

variable (tom : Poisson ℝ)

theorem probability_eq (rate : ℝ) :
    tom.probability rate = 1 - Real.exp (-rate * tom.timeSpan) := by
  change -(Real.exp (-rate * tom.timeSpan) - 1) = 1 - Real.exp (-rate * tom.timeSpan)
  exact neg_sub _ _

theorem probability_zero : tom.probability 0 = 0 := by
  rw [probability_eq, neg_zero, zero_mul, Real.exp_zero, sub_self]

/-- Nothing occurs at the sum of two rates if nothing occurs at either. -/
theorem complement_add (a b : ℝ) :
    1 - tom.probability (a + b) = (1 - tom.probability a) * (1 - tom.probability b) := by
  rw [probability_eq, probability_eq, probability_eq, sub_sub_cancel, sub_sub_cancel,
    sub_sub_cancel, ← Real.exp_add, neg_add, add_mul]

theorem prod_complement (rates : List ℝ) :
    (rates.map fun rate => 1 - tom.probability rate).prod = 1 - tom.probability rates.sum := by
  induction rates with
  | nil => rw [List.map_nil, List.prod_nil, List.sum_nil, probability_zero, sub_zero]
  | cons rate rest ih => rw [List.map_cons, List.prod_cons, ih, List.sum_cons, complement_add]

/-- However long the span, an occurrence is never certain. -/
theorem probability_range (hspan : 0 ≤ tom.timeSpan) {rate : ℝ} (hrate : 0 ≤ rate) :
    0 ≤ tom.probability rate ∧ tom.probability rate < 1 := by
  rw [probability_eq]
  constructor
  · rw [sub_nonneg, Real.exp_le_one_iff, neg_mul, neg_nonpos]
    exact mul_nonneg hrate hspan
  · exact sub_lt_self 1 (Real.exp_pos _)

end Poisson

/-- A list of results is known if each result is. -/
theorem mapM_eq_some_map {β γ : Type} {f : β → Option γ} {g : β → γ} (xs : List β)
    (h : ∀ x ∈ xs, f x = some (g x)) : xs.mapM f = some (xs.map g) := by
  induction xs with
  | nil => rfl
  | cons x rest ih =>
      have hrest := ih fun y hy => h y (List.mem_cons_of_mem x hy)
      rw [List.mapM_cons, h x List.mem_cons_self, hrest]
      rfl

/-- Ruptures of one occurrence in time are as probable together as one rupture at the sum of
    their rates. -/
theorem jointProbability?_eq (tom : Poisson ℝ) (ruptures : List (Rupture ℝ))
    (h : ∀ r ∈ ruptures, r.occurrence = some tom) :
    jointProbability? ruptures = some (tom.probability (rateSum ruptures)) := by
  have heach : ∀ r ∈ ruptures, r.probability? = some (tom.probability r.rate) := by
    intro r hr
    rw [Rupture.probability?, h r hr, Option.map_some]
  -- The factors of the product are those of the rates.
  have hproduct := tom.prod_complement (ruptures.map Rupture.rate)
  rw [List.map_map] at hproduct
  rw [jointProbability?, mapM_eq_some_map ruptures heach, Option.map_some, List.map_map, rateSum,
    ← sub_sub_cancel 1 (tom.probability _), ← hproduct]
  rfl

section Occurrence

variable {α : Type} [Scalar α]

/-- A rupture has the occurrence in time of its source. -/
theorem RuptureSetting.rupture_occurrence (setting : RuptureSetting α) (magnitude rate : α)
    (plane : NodalPlane α) (hypocenter : Point α) (asPoint shift : Bool) :
    (setting.rupture magnitude rate plane hypocenter asPoint shift).occurrence
      = setting.occurrence := by
  cases asPoint with
  | true => rfl
  | false => rfl

theorem PointSource.occurrence_of_mem_ruptures (s : PointSource α) (options : RuptureOptions α)
    (r : Rupture α) (h : r ∈ s.ruptures options) : r.occurrence = s.occurrence := by
  rcases (s.mem_ruptures_iff options r).mp h with ⟨plane, _, depth, _, bin, _, hr⟩
  rw [hr]
  exact s.setting.rupture_occurrence _ _ _ _ _ _

namespace PointLike

variable (p : PointLike α)

theorem occurrence_of_mem_averagedRuptures (asPoint : Bool) (r : Rupture α)
    (h : r ∈ p.averagedRuptures asPoint) : r.occurrence = p.setting.occurrence := by
  rw [p.averagedRuptures_eq, RuptureSetting.averagedRuptures, List.mem_map] at h
  rcases h with ⟨bin, _, hr⟩
  rw [← hr]
  exact p.setting.rupture_occurrence _ _ _ _ _ _

/-- The full enumeration is that of the members. -/
theorem ruptures_eq_flatMap (options : RuptureOptions α) :
    p.ruptures options = p.members.flatMap fun s => s.ruptures options := by
  cases p with
  | single s => exact (List.flatMap_singleton (fun t => t.ruptures options) s).symm
  | clustered c => rfl

/-- Point sources, and clusters as they come about: formed of some, and asked for their
    radius. -/
inductive Formed : PointLike α → Prop where
  | single (s : PointSource α) : Formed (.single s)
  | clustered (id : String) (members : List (PointSource α)) (c : Cluster α)
      (hform : Cluster.form id members = .ok c) : Formed (.clustered c)
  | withRadius (p : PointLike α) (h : Formed p) : Formed p.withRadius

end PointLike

end Occurrence

namespace PointLike

variable {p : PointLike ℝ}

/-- However a source came about, its members have its occurrence in time. -/
theorem Formed.occurrence (h : p.Formed) :
    ∀ s ∈ p.members, s.occurrence = p.setting.occurrence := by
  induction h with
  | single s => exact List.forall_mem_singleton.mpr rfl
  | clustered id members c hform =>
      intro s hs
      exact eq_of_beq ((Cluster.form_ok id members c hform).2.2.agrees s hs).2.2
  | withRadius p _ ih =>
      -- A point source is its own member; a cluster keeps its members as they are.
      cases p with
      | single s => exact List.forall_mem_singleton.mpr rfl
      | clustered c => exact ih

theorem Formed.occurrence_of_mem_ruptures (h : p.Formed) (options : RuptureOptions ℝ)
    (r : Rupture ℝ) (hr : r ∈ p.ruptures options) : r.occurrence = p.setting.occurrence := by
  rw [p.ruptures_eq_flatMap, List.mem_flatMap] at hr
  rcases hr with ⟨s, hs, hmem⟩
  exact (s.occurrence_of_mem_ruptures options r hmem).trans (h.occurrence s hs)

variable (p) in
theorem totalRate_nonneg : 0 ≤ p.totalRate := by
  cases p with
  | single s => exact s.totalRate_nonneg
  | clustered c =>
      refine (List.sum_nonneg ?_).trans_eq c.totalRate_eq.symm
      exact List.forall_mem_map.mpr fun s _ => s.totalRate_nonneg

variable {tom : Poisson ℝ} (hoccurrence : p.setting.occurrence = some tom)

include hoccurrence

theorem jointProbability?_ruptures (hformed : p.Formed) (hweights : p.Normalized)
    (asPoint shift : Bool) :
    jointProbability? (p.ruptures { magnitude := none, asPoint := asPoint, shift := shift })
      = some (tom.probability p.totalRate) := by
  rw [jointProbability?_eq tom _ fun r hr =>
      (hformed.occurrence_of_mem_ruptures _ r hr).trans hoccurrence,
    p.rateSum_ruptures_all asPoint shift hweights]

theorem jointProbability?_averagedRuptures :
    jointProbability? (p.averagedRuptures false) = some (tom.probability p.totalRate) := by
  rw [jointProbability?_eq tom _ fun r hr =>
      (p.occurrence_of_mem_averagedRuptures false r hr).trans hoccurrence,
    p.rateSum_averagedRuptures]

end PointLike

/-- Pieces that each have the rate of their source are as probable together as one rupture at
    the sum of these rates. -/
theorem jointProbability?_flatMap (tom : Poisson ℝ) (sources : List (PointSource ℝ))
    (f : PointSource ℝ → List (Rupture ℝ))
    (hoccurrence : ∀ s ∈ sources, ∀ r ∈ f s, r.occurrence = some tom)
    (hrate : ∀ s ∈ sources, rateSum (f s) = s.totalRate) :
    jointProbability? (sources.flatMap f)
      = some (tom.probability (sources.map PointSource.totalRate).sum) := by
  have hshared : ∀ r ∈ sources.flatMap f, r.occurrence = some tom := by
    intro r hr
    rcases List.mem_flatMap.mp hr with ⟨s, hs, hmem⟩
    exact hoccurrence s hs r hmem
  rw [jointProbability?_eq tom _ hshared, rateSum_flatMap, List.map_congr_left hrate]

/-- A cluster has the occurrence in time that it was formed with. -/
theorem Cluster.occurrence_of_form (id : String) (members : List (PointSource ℝ)) (c : Cluster ℝ)
    (hform : form id members = .ok c) (tom : Poisson ℝ)
    (h : ∀ s ∈ members, s.occurrence = some tom) : c.occurrence = some tom := by
  rcases form_ok id members c hform with ⟨_, hmembers, hformed⟩
  rcases List.exists_mem_of_ne_nil _ hformed.members_ne_nil with ⟨s, hs⟩
  have hagree : s.occurrence = c.occurrence := eq_of_beq (hformed.agrees s hs).2.2
  exact hagree.symm.trans (h s (hmembers ▸ hs))

/-- Sources of one occurrence in time form a cluster if there are some, and they agree on region
    and scaling relation. -/
theorem Cluster.exists_form_iff (id : String) (members : List (PointSource ℝ))
    (tom : Poisson ℝ) (h : ∀ s ∈ members, s.occurrence = some tom) :
    (∃ c, form id members = .ok c) ↔
      members ≠ [] ∧ ∀ s ∈ members, ∀ t ∈ members, t.region = s.region ∧ t.scaling = s.scaling := by
  cases members with
  | nil =>
      constructor
      · rintro ⟨c, hc⟩
        exact absurd (form_geometry id [] c hc).1 (not_not_intro rfl)
      · rintro ⟨hne, _⟩
        exact absurd rfl hne
  | cons first rest =>
      rw [form_eq_ok_iff]
      constructor
      · -- Any two agree if each agrees with the first.
        intro hagree
        refine ⟨List.cons_ne_nil _ _, fun s hs t ht => ?_⟩
        exact ⟨(hagree t ht).region.trans (hagree s hs).region.symm,
          (hagree t ht).scaling.trans (hagree s hs).scaling.symm⟩
      · rintro ⟨_, hsame⟩ s hs
        have htags := hsame first List.mem_cons_self s hs
        exact (PointSource.agrees_iff first s).mpr
          ⟨htags.1, htags.2, (h s hs).trans (h first List.mem_cons_self).symm⟩

/-- The probability that a source ruptures does not depend on how its rate is split and merged.

    Take a point source or a cluster with an occurrence in time over a span that is not negative,
    and with weights that sum to one. The ruptures of the full enumeration and those of the
    averaged one are each as probable together as one rupture at the total rate of the source,
    and that is at least zero and less than one.

    Several point sources with one occurrence in time, too, are as probable together as one
    rupture at the sum of their total rates, in both enumerations. They form a cluster if they
    agree on region and scaling relation, and then so is the cluster. -/
theorem probabilities_compose (tom : Poisson ℝ) (hspan : 0 ≤ tom.timeSpan)
    (asPoint shift : Bool) :
    (∀ p : PointLike ℝ, p.Formed → p.setting.occurrence = some tom → p.Normalized →
      jointProbability? (p.ruptures { magnitude := none, asPoint := asPoint, shift := shift })
        = some (tom.probability p.totalRate) ∧
      jointProbability? (p.averagedRuptures false) = some (tom.probability p.totalRate) ∧
      0 ≤ tom.probability p.totalRate ∧ tom.probability p.totalRate < 1) ∧
    ∀ members : List (PointSource ℝ), (∀ s ∈ members, s.occurrence = some tom) →
      (∀ s ∈ members, s.planes.weights.sum = 1 ∧ s.depths.weights.sum = 1) →
      jointProbability? (members.flatMap fun s =>
          s.ruptures { magnitude := none, asPoint := asPoint, shift := shift })
        = some (tom.probability (members.map PointSource.totalRate).sum) ∧
      jointProbability? (members.flatMap fun s => s.averagedRuptures false)
        = some (tom.probability (members.map PointSource.totalRate).sum) ∧
      ∀ id,
        ((∃ c, Cluster.form id members = .ok c) ↔ members ≠ [] ∧
          ∀ s ∈ members, ∀ t ∈ members, t.region = s.region ∧ t.scaling = s.scaling) ∧
        ∀ c, Cluster.form id members = .ok c →
          jointProbability? (c.ruptures { magnitude := none, asPoint := asPoint, shift := shift })
            = some (tom.probability (members.map PointSource.totalRate).sum) ∧
          jointProbability? (c.averagedRuptures false)
            = some (tom.probability (members.map PointSource.totalRate).sum) ∧
          c.totalRate = (members.map PointSource.totalRate).sum := by
  refine ⟨fun p hformed hoccurrence hweights => ⟨?_, ?_, ?_⟩,
    fun members hoccurrence hweights => ?_⟩
  -- One source.
  · exact p.jointProbability?_ruptures hoccurrence hformed hweights asPoint shift
  · exact p.jointProbability?_averagedRuptures hoccurrence
  · exact tom.probability_range hspan p.totalRate_nonneg
  -- Several sources, and the cluster that they form.
  · have hruptures : jointProbability? (members.flatMap fun s =>
          s.ruptures { magnitude := none, asPoint := asPoint, shift := shift })
        = some (tom.probability (members.map PointSource.totalRate).sum) := by
      refine jointProbability?_flatMap tom members _ (fun s hs r hr => ?_) fun s hs => ?_
      · exact (s.occurrence_of_mem_ruptures _ r hr).trans (hoccurrence s hs)
      · rw [s.rateSum_ruptures_all asPoint shift, s.weightedRate_eq (hweights s hs)]
    refine ⟨hruptures, ?_, fun id => ⟨Cluster.exists_form_iff id members tom hoccurrence, ?_⟩⟩
    · refine jointProbability?_flatMap tom members _ (fun s hs r hr => ?_)
        fun s _ => s.rateSum_averagedRuptures
      exact ((PointLike.single s).occurrence_of_mem_averagedRuptures false r hr).trans
        (hoccurrence s hs)
    · intro c hc
      have hmembers : c.members = members := (Cluster.form_ok id members c hc).2.1
      have htotal : c.totalRate = (members.map PointSource.totalRate).sum := by
        rw [c.totalRate_eq, hmembers]
      refine ⟨?_, ?_, htotal⟩
      -- The ruptures of the cluster are those of its members, one by one.
      · rw [Cluster.ruptures, hmembers]
        exact hruptures
      · rw [← htotal]
        exact (PointLike.clustered c).jointProbability?_averagedRuptures
          (Cluster.occurrence_of_form id members c hc tom hoccurrence)

/-- Two sources that share a magnitude but for a little, over fifty years. -/
noncomputable def lastingPair : List (PointSource ℝ) :=
  [PointSource.steady, PointSource.nearby].map PointSource.lasting

theorem exists_form_lastingPair : ∃ c, Cluster.form "pair" lastingPair = .ok c := by
  have htags : ∀ s ∈ lastingPair, s.region = "Stable Shallow Crust" ∧ s.scaling = .peer := by
    simp only [lastingPair, List.map_cons, List.map_nil, List.forall_mem_cons, List.not_mem_nil,
      false_imp_iff, implies_true, and_true]
    exact ⟨⟨rfl, rfl⟩, rfl, rfl⟩
  refine (Cluster.exists_form_iff "pair" lastingPair { timeSpan := 50.0 }
    (List.forall_mem_map.mpr fun s _ => rfl)).mpr ⟨List.cons_ne_nil _ _, fun s hs t ht => ?_⟩
  exact ⟨(htags t ht).1.trans (htags s hs).1.symm, (htags t ht).2.trans (htags s hs).2.symm⟩

theorem probability_lastingPair : ({ timeSpan := 50.0 } : Poisson ℝ).probability
    (lastingPair.map PointSource.totalRate).sum = 1 - Real.exp (-175) := by
  have hsteady : PointSource.steady.lasting.bins = [⟨5.0, 1.0⟩, ⟨6.0, 0.5⟩] :=
    PointSource.bins_steady
  have hnearby : PointSource.nearby.lasting.bins = [⟨5.0000000005, 2.0⟩] :=
    PointSource.bins_nearby
  have htotal : (lastingPair.map PointSource.totalRate).sum = 3.5 := by
    simp only [lastingPair, List.map_cons, List.map_nil, PointSource.totalRate_eq, hsteady,
      hnearby, List.sum_cons, List.sum_nil]
    norm_num
  rw [Poisson.probability_eq, htotal]
  norm_num

/-- The cluster of the two, asked for its radius, has three and a half ruptures a year and so 175
    in fifty years, whether its ruptures are enumerated, averaged, or those of the two before. -/
theorem probabilities_compose_lastingPair :
    (0 : ℝ) ≤ 50.0 ∧ (∀ s ∈ lastingPair, s.occurrence = some { timeSpan := 50.0 }) ∧
      (∀ s ∈ lastingPair, s.planes.weights.sum = 1 ∧ s.depths.weights.sum = 1) ∧
      ∃ c, Cluster.form "pair" lastingPair = .ok c ∧
        (PointLike.clustered c.withRadius).Formed ∧
        (PointLike.clustered c.withRadius).setting.occurrence = some { timeSpan := 50.0 } ∧
        (PointLike.clustered c.withRadius).Normalized ∧
        jointProbability? (c.withRadius.ruptures
          { magnitude := none, asPoint := false, shift := true }) = some (1 - Real.exp (-175)) ∧
        jointProbability? (c.withRadius.averagedRuptures false) = some (1 - Real.exp (-175)) ∧
        jointProbability? (lastingPair.flatMap fun s => s.averagedRuptures false)
          = some (1 - Real.exp (-175)) := by
  have hspan : (0 : ℝ) ≤ 50.0 := by norm_num
  have hoccurrence : ∀ s ∈ lastingPair, s.occurrence = some { timeSpan := 50.0 } :=
    List.forall_mem_map.mpr fun s _ => rfl
  have hweights : ∀ s ∈ lastingPair, s.planes.weights.sum = 1 ∧ s.depths.weights.sum = 1 :=
    List.forall_mem_map.mpr fun s _ => s.weights_lasting
  rcases exists_form_lastingPair with ⟨c, hc⟩
  have hformed : (PointLike.clustered c.withRadius).Formed :=
    (PointLike.Formed.clustered "pair" lastingPair c hc).withRadius
  have hshared : (PointLike.clustered c.withRadius).setting.occurrence
      = some { timeSpan := 50.0 } :=
    Cluster.occurrence_of_form "pair" lastingPair c hc _ hoccurrence
  have hnormalized : (PointLike.clustered c.withRadius).Normalized :=
    fun s hs => hweights s ((Cluster.form_ok "pair" lastingPair c hc).2.1 ▸ hs)
  rcases probabilities_compose { timeSpan := 50.0 } hspan false true with ⟨hsource, hseveral⟩
  rcases hsource _ hformed hshared hnormalized with ⟨hfull, hmean, _⟩
  rcases hseveral lastingPair hoccurrence hweights with ⟨_, hbefore, hcluster⟩
  have htotal : (PointLike.clustered c.withRadius).totalRate
      = (lastingPair.map PointSource.totalRate).sum := ((hcluster "pair").2 c hc).2.2
  rw [htotal, probability_lastingPair] at hfull hmean
  rw [probability_lastingPair] at hbefore
  exact ⟨hspan, hoccurrence, hweights, c, hc, hformed, hshared, hnormalized, hfull, hmean, hbefore⟩

end Seismicity
