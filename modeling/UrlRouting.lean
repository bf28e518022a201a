import UrlRouting.Proofs.KeyPaths
import UrlRouting.Proofs.RouteStore
import UrlRouting.Request
import UrlRouting.Proofs.TemplateGrammar
import UrlRouting.Proofs.TemplateReading
import UrlRouting.Proofs.PatternReading
import UrlRouting.Proofs.PercentCoding
import UrlRouting.Proofs.MatchBindings
import UrlRouting.Proofs.ExpandMatched
import UrlRouting.Proofs.AgreeingBindings
import UrlRouting.Proofs.WrittenParts
import UrlRouting.Proofs.MatchExpansion
import UrlRouting.Proofs.IdentityGroups
import UrlRouting.Proofs.RouteSelection
import UrlRouting.Proofs.RouterOutcomes
import UrlRouting.Proofs.TemplateRoundTrip
import UrlRouting.Proofs.MethodText
import UrlRouting.Proofs.RouteBuilding
import UrlRouting.Proofs.BindingShapes
