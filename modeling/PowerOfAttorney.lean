import PowerOfAttorney.Postcode.Endpoint
import PowerOfAttorney.RandomText
import PowerOfAttorney.Store.Hash
import PowerOfAttorney.Store.Faulty
import PowerOfAttorney.Store.Memory
import PowerOfAttorney.Web.Server
import PowerOfAttorney.Proofs.Acceptance
import PowerOfAttorney.Proofs.Arrangements
import PowerOfAttorney.Proofs.FormErrors
import PowerOfAttorney.Proofs.FormRules
import PowerOfAttorney.Proofs.Identity
import PowerOfAttorney.Proofs.Interleaving
import PowerOfAttorney.Proofs.Isolation
import PowerOfAttorney.Proofs.Refusals
import PowerOfAttorney.Proofs.Session
import PowerOfAttorney.Proofs.TaskStates
import PowerOfAttorney.Proofs.Questions
import PowerOfAttorney.Proofs.Minting
import PowerOfAttorney.Proofs.Rosters
import PowerOfAttorney.Proofs.OrderedMap
import PowerOfAttorney.Proofs.Namesakes
import PowerOfAttorney.Proofs.JsonText
import PowerOfAttorney.Proofs.LpaText
import PowerOfAttorney.Proofs.HashRefinement
import PowerOfAttorney.Proofs.Milestones
import PowerOfAttorney.Proofs.Warnings
import PowerOfAttorney.Proofs.Resubmission
import PowerOfAttorney.Proofs.Access
import PowerOfAttorney.Proofs.Addresses
import PowerOfAttorney.Proofs.NameSearch
import PowerOfAttorney.Proofs.Offers
import PowerOfAttorney.Proofs.DatesOfBirth
import PowerOfAttorney.Proofs.Landing
import PowerOfAttorney.Proofs.Faults
import PowerOfAttorney.Proofs.QueryText
import PowerOfAttorney.Proofs.Urls
import PowerOfAttorney.Proofs.Cookies
import PowerOfAttorney.Proofs.PostcodeLookup
