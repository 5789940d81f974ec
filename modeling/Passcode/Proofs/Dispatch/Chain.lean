/-
  Passcode.Proofs.Dispatch.Chain — what the route that settings describe is made of.

  Only the providers of a chain and its limiter reach outside, and the settings say which policies
  stand around them.

  Proved: an accepted chain is its policies around the providers of its settings (`route_eq_ok`), each of
  which is one of two kinds (`provider_eq_ok`); so whatever holds of those providers and of the limiter
  holds of all that the chain reaches (`route_leaves`).
-/

import Passcode.Dispatch.Chain
import Passcode.Proofs.Dispatch.Journal

namespace Passcode

variable {σ : Type}

theorem Route.leavesFrom_of_mem {p : List Nat → Sender σ → Prop} {l : List Nat → Limiter σ → Prop}
    {inner : List (Route σ)} (h : ∀ route ∈ inner, ∀ place, route.Leaves p l place) (place : List Nat) (i : Nat) :
    LeavesFrom p l place i inner := by
  induction inner generalizing i with
  | nil => trivial
  | cons route rest ih =>
    have hroute := h route (List.mem_cons_self ..) (place ++ [i])
    exact ⟨hroute, ih (fun route hm => h route (List.mem_cons_of_mem _ hm)) (i + 1)⟩

namespace DeliverySettings

variable {c : DeliverySettings} {limiter : Limiter σ} {carrier : Carrier σ} {slot : Nat} {route : Route σ}
  {p : List Nat → Sender σ → Prop} {l : List Nat → Limiter σ → Prop}

/-- A provider that is accepted is one of two kinds. -/
theorem provider_eq_ok {templates : Templates} {place : Nat} {settings : ProviderSettings} {leaf : Route σ}
    (h : provider templates carrier place settings = .ok leaf) :
    leaf = .provider settings.name (Outbox.provider settings.name templates (carrier.keep place)) ∨
      leaf = .provider settings.name (Twilio.provider settings templates (carrier.line place)) := by
  unfold provider at h
  cases hkind : settings.kind with
  | memory =>
    rw [hkind] at h
    cases h
    exact Or.inl rfl
  | twilio =>
    rw [hkind] at h
    cases hcheck : Twilio.check settings with
    | error e =>
      simp only [hcheck] at h
      cases h
    | ok _ =>
      simp only [hcheck] at h
      cases h
      exact Or.inr rfl

theorem providersFrom_cons {templates : Templates} {place : Nat} {settings : ProviderSettings}
    {rest : List ProviderSettings} {routes : List (Route σ)}
    (h : providersFrom templates carrier place (settings :: rest) = .ok routes) :
    ∃ first others, provider templates carrier place settings = .ok first ∧
      providersFrom templates carrier (place + 1) rest = .ok others ∧ routes = first :: others := by
  rw [providersFrom] at h
  cases hfirst : provider templates carrier place settings with
  | error e =>
    rw [hfirst] at h
    cases h
  | ok first =>
    cases hrest : providersFrom templates carrier (place + 1) rest with
    | error e =>
      rw [hfirst, hrest] at h
      cases h
    | ok others =>
      rw [hfirst, hrest] at h
      cases h
      exact ⟨first, others, rfl, rfl, rfl⟩

theorem mem_providersFrom {templates : Templates} {i : Nat} {providers : List ProviderSettings}
    {routes : List (Route σ)} (h : providersFrom templates carrier i providers = .ok routes) (hm : route ∈ routes) :
    ∃ place settings, provider templates carrier place settings = .ok route := by
  induction providers generalizing i routes with
  | nil =>
    cases h
    cases hm
  | cons settings rest ih =>
    obtain ⟨first, others, hfirst, hrest, rfl⟩ := providersFrom_cons h
    rcases List.mem_cons.mp hm with rfl | hm
    · exact ⟨i, settings, hfirst⟩
    · exact ih hrest hm

/-- The settings of a provider stand where the provider stands. -/
theorem getElem?_providersFrom {templates : Templates} {place : Nat} {providers : List ProviderSettings}
    {routes : List (Route σ)} (h : providersFrom templates carrier place providers = .ok routes) {i : Nat}
    {settings : ProviderSettings} (hi : providers[i]? = some settings) :
    ∃ leaf, routes[i]? = some leaf ∧ provider templates carrier (place + i) settings = .ok leaf := by
  induction providers generalizing place routes i with
  | nil => cases hi
  | cons first rest ih =>
    obtain ⟨leaf, others, hfirst, hrest, rfl⟩ := providersFrom_cons h
    cases i with
    | zero =>
      cases hi
      exact ⟨leaf, rfl, hfirst⟩
    | succ i =>
      obtain ⟨other, hother, hsettings⟩ := ih hrest hi
      rw [Nat.add_right_comm] at hsettings
      exact ⟨other, hother, hsettings⟩

theorem length_providersFrom {templates : Templates} {place : Nat} {providers : List ProviderSettings}
    {routes : List (Route σ)} (h : providersFrom templates carrier place providers = .ok routes) :
    routes.length = providers.length := by
  induction providers generalizing place routes with
  | nil =>
    cases h
    rfl
  | cons settings rest ih =>
    obtain ⟨first, others, -, hrest, rfl⟩ := providersFrom_cons h
    exact congrArg Nat.succ (ih hrest)

theorem providersFrom_ne_nil {templates : Templates} {place : Nat} {providers : List ProviderSettings}
    {routes : List (Route σ)} (h : providersFrom templates carrier place providers = .ok routes)
    (hne : providers ≠ []) : routes ≠ [] := by
  rw [← List.length_pos_iff, length_providersFrom h]
  exact List.length_pos_iff.mpr hne

/-- A chain without providers is not accepted. -/
theorem providers_ne_nil (h : c.route limiter carrier slot = .ok route) : c.providers ≠ [] := by
  intro hnil
  rw [DeliverySettings.route, hnil] at h
  cases h

/-- A chain is made of its policies around its providers. -/
theorem route_eq_ok (h : c.route limiter carrier slot = .ok route) :
    ∃ providers, providersFrom c.templates carrier 0 c.providers = .ok providers ∧
      route = c.around limiter slot providers := by
  unfold DeliverySettings.route at h
  split at h
  · cases h
  · cases hproviders : providersFrom c.templates carrier 0 c.providers with
    | error e =>
      rw [hproviders] at h
      cases h
    | ok providers =>
      rw [hproviders] at h
      cases h
      exact ⟨providers, rfl, rfl⟩

theorem around_leaves {providers : List (Route σ)} (hl : ∀ place, l place limiter)
    (h : ∀ route ∈ providers, ∀ place, route.Leaves p l place) (place : List Nat) :
    (c.around limiter slot providers).Leaves p l place := by
  have hcombined : (c.combined slot providers).Leaves p l place := by
    unfold combined
    cases c.strategy <;> exact Route.leavesFrom_of_mem h place 0
  have hretried : (c.retried (c.combined slot providers)).Leaves p l place := by
    unfold retried
    split
    · exact hcombined
    · exact hcombined
  have hmetered : (c.metered limiter (c.retried (c.combined slot providers))).Leaves p l place := by
    unfold metered
    split
    · exact ⟨hl place, hretried⟩
    · exact hretried
  unfold around guarded
  split
  · exact hmetered
  · exact hmetered

/-- A chain reaches the providers that its settings describe, and its limiter. -/
theorem route_leaves (h : c.route limiter carrier slot = .ok route) (hl : ∀ place, l place limiter)
    (hp : ∀ place settings leaf, provider c.templates carrier place settings = .ok leaf →
      ∀ inRoute, leaf.Leaves p l inRoute) :
    route.Leaves p l [] := by
  obtain ⟨providers, hproviders, rfl⟩ := route_eq_ok h
  refine around_leaves hl (fun route hm => ?_) []
  obtain ⟨place, settings, hroute⟩ := mem_providersFrom hproviders hm
  exact hp place settings route hroute

end DeliverySettings

end Passcode
