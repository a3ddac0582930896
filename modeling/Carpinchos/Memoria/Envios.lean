import Carpinchos.Memoria.Cambios

/-!
# What has been sent to SWAmP

The paging functions add to what the module has sent to SWAmP and take nothing back. Each of
them is followed to the messages of the state that it leaves.
-/

namespace Carpinchos.Memoria

open Outcome Estado

variable {E : Entorno} {s s' : Estado} {p v : ℕ} {pid pagina k : ℤ}

section Desalojo

theorem guardarEnSwamp_mensajes (E : Entorno) (v : ℕ) (s : Estado) :
    s.mensajes <+: (guardarEnSwamp E v s).mensajes := by
  unfold guardarEnSwamp
  split
  · exact List.prefix_rfl
  · exact List.prefix_append _ _

theorem desalojarPagina_mensajes (h : desalojarPagina E v pid pagina s = .ok (k, s')) :
    s.mensajes <+: s'.mensajes := by
  have hguardar := guardarEnSwamp_mensajes E v s
  obtain ⟨s₁, hvaciar, h⟩ := bind_eq_ok.1 h
  obtain ⟨cache, numero, rfl⟩ := vaciarMarcoEnCache_cases hvaciar
  dsimp only at h
  split at h
  · cases h
  · cases h
    exact hguardar

theorem swampearPaginaWhenCreatePage_mensajes
    (h : swampearPaginaWhenCreatePage E pid pagina s = .ok (k, s')) :
    s.mensajes <+: s'.mensajes := by
  obtain ⟨⟨v, s₁⟩, helegir, h⟩ := bind_eq_ok.1 h
  obtain ⟨desc, car, ptr, rfl, -, -⟩ := elegirPaginaASwampear_cases helegir
  have henviada := desalojarPagina_mensajes h
  exact henviada

theorem swampearPagina_mensajes (h : swampearPagina E pid pagina s = .ok (k, s')) :
    s.mensajes <+: s'.mensajes := by
  obtain ⟨⟨v, s₁⟩, helegir, h⟩ := bind_eq_ok.1 h
  obtain ⟨desc, car, ptr, rfl, -, -⟩ := elegirPaginaASwampear_cases helegir
  dsimp only at h
  split at h
  · obtain ⟨⟨marco, s₂⟩, hdesalojar, h⟩ := bind_eq_ok.1 h
    have henviada := desalojarPagina_mensajes hdesalojar
    obtain ⟨estado, cache, heq, -⟩ := lecturaSwamp_cases E pid pagina marco s₂
    simp only [heq] at h
    cases h
    exact henviada.trans (List.prefix_append _ _)
  · cases h
    exact List.prefix_rfl

end Desalojo

section Acceso

theorem tlbHit_mensajes (h : tlbHit p s = .ok s') : s'.mensajes = s.mensajes := by
  obtain ⟨c, -, rfl⟩ := tlbHit_cases h
  rfl

theorem refrescarTlb_mensajes (h : refrescarTlb E p s = .ok s') : s'.mensajes = s.mensajes := by
  rcases refrescarTlb_cases h with ⟨-, rfl⟩ | ⟨-, t, -, rfl⟩ <;> rfl

theorem obtenerMarcoSinTlb_mensajes (h : obtenerMarcoSinTlb E p s = .ok (k, s')) :
    s.mensajes <+: s'.mensajes := by
  unfold obtenerMarcoSinTlb at h
  split at h
  · obtain ⟨s₁, hmiss, h⟩ := bind_eq_ok.1 h
    obtain ⟨c, -, rfl⟩ := tlbMiss_cases hmiss
    cases h
    exact List.prefix_rfl
  · obtain ⟨s₁, hhit, h⟩ := bind_eq_ok.1 h
    rw [← tlbHit_mensajes hhit]
    exact swampearPagina_mensajes h

theorem getMarcoDeTlb_mensajes {obtenerMarco : ℕ → Estado → Except Falla (ℤ × Estado)}
    (hobtener : ∀ s k s', obtenerMarco p s = .ok (k, s') → s.mensajes <+: s'.mensajes)
    (h : getMarcoDeTlb obtenerMarco p s = .ok (k, s')) : s.mensajes <+: s'.mensajes := by
  unfold getMarcoDeTlb at h
  split at h
  · split at h
    · cases h
    · split at h
      · cases h
      · split at h
        · cases h
          exact List.prefix_rfl
        · have henviada := hobtener _ _ _ h
          exact henviada
  · cases h
    exact List.prefix_rfl

theorem obtenerMarcoParaPagina_mensajes {fuel : ℕ}
    (h : obtenerMarcoParaPagina E fuel p s = .ok (k, s')) : s.mensajes <+: s'.mensajes := by
  induction fuel generalizing s s' k with
  | zero => cases h
  | succ fuel ih =>
    unfold obtenerMarcoParaPagina at h
    split at h
    · obtain ⟨s₁, hhit, h⟩ := bind_eq_ok.1 h
      obtain ⟨⟨marco, s₂⟩, hmarco, h⟩ := bind_eq_ok.1 h
      obtain ⟨s₃, hrefrescar, h⟩ := bind_eq_ok.1 h
      cases h
      rw [refrescarTlb_mensajes hrefrescar, ← tlbHit_mensajes hhit]
      exact getMarcoDeTlb_mensajes (fun _ _ _ => ih) hmarco
    · obtain ⟨⟨marco, s₁⟩, hmarco, h⟩ := bind_eq_ok.1 h
      obtain ⟨s₂, hactualizar, h⟩ := bind_eq_ok.1 h
      obtain ⟨tlb, fifo, ts, desc, ramas, rfl⟩ := actualizarTlb_cases hactualizar
      cases h
      have henviada := obtenerMarcoSinTlb_mensajes hmarco
      exact henviada

theorem Accede.mensajes (h : Accede E p s s') : s.mensajes <+: s'.mensajes := by
  obtain ⟨marco, s₁, cache, desc, ts, htraer, rfl, -⟩ := h.traer
  obtain ⟨s₂, k, s₃, desc', hrefrescar, hobtener, rfl, -⟩ := traerPagina_cases htraer
  have hs₂ : s₂.mensajes = s.mensajes := by
    split at hrefrescar
    · exact refrescarTlb_mensajes hrefrescar
    · cases hrefrescar
      rfl
  rw [← hs₂]
  have henviada := obtenerMarcoParaPagina_mensajes hobtener
  exact henviada

end Acceso

section Pasos

theorem marcoParaPaginaNueva_mensajes {beforeValue : Bool}
    (h : marcoParaPaginaNueva E beforeValue pid pagina s = .ok (k, s')) :
    s.mensajes <+: s'.mensajes := by
  unfold marcoParaPaginaNueva at h
  split at h
  · split at h
    · cases h
    · cases h
      exact List.prefix_rfl
  · exact swampearPaginaWhenCreatePage_mensajes h

theorem createPagina_mensajes (h : createPagina E pid s = .ok (p, s')) :
    s.mensajes <+: s'.mensajes := by
  unfold createPagina at h
  split at h
  · cases h
  · obtain ⟨beforeValue, -, h⟩ := bind_eq_ok.1 h
    obtain ⟨⟨marco, s₁⟩, hmarco, h⟩ := bind_eq_ok.1 h
    have henviada := marcoParaPaginaNueva_mensajes hmarco
    dsimp only at h
    split at h
    · cases h
    · obtain ⟨s₂, hactualizar, h⟩ := bind_eq_ok.1 h
      obtain ⟨tlb, fifo, ts, desc, ramas, rfl⟩ := actualizarTlb_cases hactualizar
      obtain ⟨s₃, hmarcar, h⟩ := bind_eq_ok.1 h
      obtain ⟨desc', ts', rfl, -⟩ := marcarCreacion_cases hmarcar
      cases h
      exact henviada

/-- A call of the paging layer takes back no message. -/
theorem paso_mensajes {op : Operacion} {r : Resultado} (h : paso E op s = .ok (r, s')) :
    s.mensajes <+: s'.mensajes := by
  cases op with
  | createCarpincho pid =>
    cases h
    unfold createCarpincho
    split <;> exact List.prefix_rfl
  | createPagina pid =>
    unfold paso at h
    dsimp only at h
    split at h
    · obtain ⟨⟨q, s₁⟩, hcrear, h⟩ := bind_eq_ok.1 h
      cases h
      exact createPagina_mensajes hcrear
    · cases h
  | leerEnPagina pid pagina tamanio offset =>
    obtain ⟨q, -, h⟩ := bind_eq_ok.1 h
    obtain ⟨⟨contenido, s₁⟩, hleer, h⟩ := bind_eq_ok.1 h
    cases h
    exact Accede.mensajes (Or.inl ⟨tamanio, offset, contenido, hleer⟩)
  | escribirEnPagina pid pagina buffer offset =>
    obtain ⟨q, -, h⟩ := bind_eq_ok.1 h
    obtain ⟨⟨codigo, s₁⟩, hescribir, h⟩ := bind_eq_ok.1 h
    cases h
    exact Accede.mensajes (Or.inr ⟨buffer, offset, codigo, hescribir⟩)

end Pasos

end Carpinchos.Memoria
