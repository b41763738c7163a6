import PlayerPage.Console
import PlayerPage.Failure.Named
import PlayerPage.Page
import PlayerPage.Proofs.Format.Bitrate
import PlayerPage.Proofs.Format.Written
import PlayerPage.Proofs.Logger
import PlayerPage.Proofs.Manifest.Skeleton
import PlayerPage.Proofs.Page.Blank
import PlayerPage.Proofs.Page.Escape
import PlayerPage.Proofs.Page.Reporting
import PlayerPage.Proofs.Page.Schemas
import PlayerPage.Proofs.Page.Traffic
import PlayerPage.Proofs.Page.WellFormed
import PlayerPage.Record.Layouts
import PlayerPage.Value.Series
import PlayerPage.Value.Template
import PlayerPage.Proofs.Page.Track
import PlayerPage.Proofs.Manifest.Account
import PlayerPage.Proofs.Form.Object
import PlayerPage.Proofs.Form.Query
import PlayerPage.Proofs.ContentType
import PlayerPage.Proofs.Path
import PlayerPage.Proofs.Format.StreamMap
import PlayerPage.Proofs.Form.Piecewise
import PlayerPage.Proofs.Text.Between
import PlayerPage.Proofs.Xml.Glyphs
import PlayerPage.Proofs.Xml.Opening
import PlayerPage.Proofs.Xml.Recoded
