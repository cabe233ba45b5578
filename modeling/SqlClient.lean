import SqlClient.Proofs.Codec.Sequence
import SqlClient.Proofs.Codec.Tiling
import SqlClient.Proofs.Connection.Interruption
import SqlClient.Proofs.Cursor.Names
import SqlClient.Proofs.Cursor.Separation
import SqlClient.Proofs.Options.Login
import SqlClient.Proofs.Response.Acknowledgement
import SqlClient.Proofs.Session.Outcome
import SqlClient.Proofs.Session.Report
import SqlClient.Proofs.Session.Synchronised
import SqlClient.Proofs.Session.Table
import SqlClient.Proofs.Session.Verdict
import SqlClient.Proofs.Transport.Grammar
import SqlClient.Proofs.Transport.Refusal
import SqlClient.Proofs.Value.Float
import SqlClient.Proofs.Value.Integer
