import CyoloLogin.Interfaces
import CyoloLogin.Run
import CyoloLogin.JavaScript
import CyoloLogin.Schemes
import CyoloLogin.Services.AuthAPI
import CyoloLogin.Services.Contracts
import CyoloLogin.Hooks.UserData
import CyoloLogin.EnrollmentWizard.Screen
import CyoloLogin.EnrollmentWizard.PhoneThrottle
import CyoloLogin.EnrollmentWizard.Steps
import CyoloLogin.EnrollmentWizard.Entry
import CyoloLogin.EnrollmentWizard.CodeSubmit
import CyoloLogin.EnrollmentWizard.Requests
import CyoloLogin.LoginScreen
import CyoloLogin.MultifactorAuth.Screen
import CyoloLogin.MultifactorAuth.SmsMode
import CyoloLogin.MultifactorAuth.Loading
import CyoloLogin.MultifactorAuth.Redirect
